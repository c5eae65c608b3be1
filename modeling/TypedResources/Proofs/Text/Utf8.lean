import TypedResources.Text.Utf8

-- What is written in UTF-8 is read back as it was (`decode_encode`).

namespace TypedResources.Text.Utf8

variable {b : UInt8} {m n : Nat}

theorem toNat_ofNat_of_lt (h : n < 256) : (UInt8.ofNat n).toNat = n := by
  simp [Nat.mod_eq_of_lt h]

-- The byte of six bits behind the first byte of a character.
def tailOf (m : Nat) : UInt8 :=
  UInt8.ofNat (m % 64 + 128)

theorem toNat_tailOf : (tailOf m).toNat = m % 64 + 128 :=
  toNat_ofNat_of_lt (by omega)

theorem isTail_tailOf : isTail (tailOf m) := by
  simp only [isTail, UInt8.le_iff_toNat_le, toNat_tailOf, Bool.and_eq_true, decide_eq_true_eq,
    UInt8.reduceToNat]
  omega

theorem tailBits_tailOf : tailBits (tailOf m) = m % 64 := by
  rw [tailBits, toNat_tailOf]
  omega

theorem isSecond_tailOf (hE0 : b.toNat = 0xE0 → 0x20 ≤ m % 64) (hED : b.toNat = 0xED → m % 64 < 0x20)
    (hF0 : b.toNat = 0xF0 → 0x10 ≤ m % 64) (hF4 : b.toNat = 0xF4 → m % 64 < 0x10) : isSecond b (tailOf m) := by
  simp only [isSecond, isTail_tailOf, Bool.true_and, ← UInt8.toNat_inj, UInt8.le_iff_toNat_le,
    UInt8.lt_iff_toNat_lt, toNat_tailOf, UInt8.reduceToNat]
  split
  case isTrue h => simpa using by have := hE0 h; omega
  case isFalse =>
    split
    case isTrue h => simpa using by have := hED h; omega
    case isFalse =>
      split
      case isTrue h => simpa using by have := hF0 h; omega
      case isFalse =>
        split
        case isTrue h => simpa using by have := hF4 h; omega
        case isFalse  => rfl

theorem chunk_one {rest : Bytes} (h : b.toNat < 0x80) : chunk b rest = .char (Char.ofNat b.toNat) 1 :=
  if_pos (UInt8.lt_iff_toNat_lt.mpr h)

theorem chunk_two {rest : Bytes} (hb : b.toNat = n / 64 + 0xC0) (h : 0x80 ≤ n ∧ n < 0x800) :
    chunk b (tailOf n :: rest) = .char (Char.ofNat n) 2 := by
  have hs : isSecond b (tailOf n) := isSecond_tailOf (by omega) (by omega) (by omega) (by omega)
  have hn : b.toNat % 32 * 64 + n % 64 = n := by omega
  simp only [chunk, UInt8.lt_iff_toNat_lt, UInt8.le_iff_toNat_le, UInt8.reduceToNat, hs, tailBits_tailOf, hn]
  rw [if_neg (by omega), if_neg (by simp; omega), if_neg (by simp), if_pos (by omega)]

theorem chunk_three {rest : Bytes} (hb : b.toNat = n / 4096 + 0xE0) (h : 0x800 ≤ n ∧ n < 0x10000)
    (hn : n < 0xD800 ∨ 0xDFFF < n) : chunk b (tailOf (n / 64) :: tailOf n :: rest) = .char (Char.ofNat n) 3 := by
  have hs : isSecond b (tailOf (n / 64)) := isSecond_tailOf (by omega) (by omega) (by omega) (by omega)
  have hn : (b.toNat % 16 * 64 + n / 64 % 64) * 64 + n % 64 = n := by omega
  simp only [chunk, UInt8.lt_iff_toNat_lt, UInt8.le_iff_toNat_le, UInt8.reduceToNat, hs, isTail_tailOf,
    tailBits_tailOf, hn]
  rw [if_neg (by omega), if_neg (by simp; omega), if_neg (by simp), if_neg (by omega), if_neg (by simp),
    if_pos (by omega)]

theorem chunk_four {rest : Bytes} (hb : b.toNat = n / 262144 + 0xF0) (h : 0x10000 ≤ n ∧ n < 0x110000) :
    chunk b (tailOf (n / 4096) :: tailOf (n / 64) :: tailOf n :: rest) = .char (Char.ofNat n) 4 := by
  have hs : isSecond b (tailOf (n / 4096)) := isSecond_tailOf (by omega) (by omega) (by omega) (by omega)
  have hn : ((b.toNat % 8 * 64 + n / 4096 % 64) * 64 + n / 64 % 64) * 64 + n % 64 = n := by omega
  simp only [chunk, UInt8.lt_iff_toNat_lt, UInt8.le_iff_toNat_le, UInt8.reduceToNat, hs, isTail_tailOf,
    tailBits_tailOf, hn]
  rw [if_neg (by omega), if_neg (by simp; omega), if_neg (by simp), if_neg (by omega), if_neg (by simp),
    if_neg (by omega), if_neg (by simp)]

-- The bytes of a character make one chunk, whatever follows them.
theorem chunk_encode (c : Char) : ∃ b t, String.utf8EncodeChar c = b :: t ∧
    ∀ rest, chunk b (t ++ rest) = .char c (t.length + 1) := by
  have hv : c.val.toNat < 0xD800 ∨ 0xDFFF < c.val.toNat ∧ c.val.toNat < 0x110000 := c.valid
  have hc : Char.ofNat c.val.toNat = c := Char.ofNat_toNat c
  unfold String.utf8EncodeChar
  dsimp only
  generalize c.val.toNat = n at hv hc
  subst hc
  split
  case isTrue h₁ =>
    have hb := toNat_ofNat_of_lt (n := n) (by omega)
    refine ⟨_, [], rfl, fun rest => ?_⟩
    rw [chunk_one (by omega), hb]
    rfl
  case isFalse h₁ =>
    split
    case isTrue h₂ =>
      have hb := toNat_ofNat_of_lt (n := n / 64 % 32 + 192) (by omega)
      exact ⟨_, [tailOf n], rfl, fun rest => chunk_two (by omega) (by omega)⟩
    case isFalse h₂ =>
      split
      case isTrue h₃ =>
        have hb := toNat_ofNat_of_lt (n := n / 4096 % 16 + 224) (by omega)
        exact ⟨_, [tailOf (n / 64), tailOf n], rfl, fun rest => chunk_three (by omega) (by omega) (by omega)⟩
      case isFalse h₃ =>
        have hb := toNat_ofNat_of_lt (n := n / 262144 % 8 + 240) (by omega)
        exact ⟨_, [tailOf (n / 4096), tailOf (n / 64), tailOf n], rfl,
          fun rest => chunk_four (by omega) (by omega)⟩

theorem chunks_go_append {t rest : Bytes} : chunks.go t.length (t ++ rest) = chunks.go 0 rest := by
  induction t
  case nil         => rfl
  case cons _ _ ih => exact ih

theorem chunks_encode_cons {c : Char} {s : List Char} :
    ∃ width, chunks (encode (c :: s)) = .char c width :: chunks (encode s) := by
  have ⟨b, t, hb, h⟩ := chunk_encode c
  refine ⟨t.length + 1, ?_⟩
  have he : encode (c :: s) = b :: (t ++ encode s) := by rw [encode, List.flatMap_cons, hb]; rfl
  rw [chunks, he, chunks.go, h, Chunk.width, Nat.add_sub_cancel, chunks_go_append]
  rfl

theorem decode_encode (s : List Char) : decode (encode s) = .ok s := by
  have go (bytes : Bytes) (s : List Char) (pos : Nat) : decode.go bytes pos (chunks (encode s)) = .ok s := by
    induction s generalizing pos
    case nil         => rfl
    case cons c s ih =>
      have ⟨width, h⟩ := chunks_encode_cons (c := c) (s := s)
      rw [h, decode.go, ih]
      rfl
  exact go _ s 0

theorem encode_injective : Function.Injective encode := by
  intro s s' h
  have h := congrArg decode h
  rw [decode_encode, decode_encode] at h
  exact Except.ok.inj h

end TypedResources.Text.Utf8
