import TypedResources.Json
import TypedResources.Proofs.Number.Numeral
import TypedResources.Proofs.Query

-- What certain texts are read as: texts without escapes, numbers without a sign, and objects of such
-- entries.

namespace TypedResources.Json

variable {c : Char} {s t u : List Char} {n fuel : Nat}

-- Whether a character stands for itself within quotes.
def isPlain (c : Char) : Bool :=
  c ≠ '"' && c ≠ '\\' && 0x20 ≤ c.toNat

theorem skipSpace_of_not_isSpace (h : isSpace c = false) : skipSpace (c :: s) = c :: s :=
  List.dropWhile_cons_of_neg (by simp [h])

theorem scanText_plain (h : s.all isPlain) : scanText 0 (s ++ '"' :: t) = .ok (s, t) := by
  induction s
  case nil         => rfl
  case cons c s ih =>
    have ⟨hc, hs⟩ := (Bool.and_eq_true _ _).mp h
    simp only [isPlain, Bool.and_eq_true, decide_eq_true_eq] at hc
    have ⟨⟨hq, hb⟩, hc⟩ := hc
    rw [List.cons_append, scanText, if_neg hq, if_neg (by omega), if_neg hb, ih hs]
    rfl

theorem scanValue_text (h : s.all isPlain) :
    scanValue (fuel + 1) ('"' :: (s ++ '"' :: t)) = .ok (.text (String.ofList s), t) := by
  rw [scanValue, scanText_plain h]
  rfl

-- What cannot go on with a number.
def EndsNumber (t : List Char) : Prop :=
  ∀ c u, t = c :: u → c.isDigit = false ∧ c ≠ '.' ∧ c ≠ 'e' ∧ c ≠ 'E'

theorem endsNumber_cons (h : c.isDigit = false ∧ c ≠ '.' ∧ c ≠ 'e' ∧ c ≠ 'E') : EndsNumber (c :: t) := by
  rintro _ _ ⟨⟩
  exact h

theorem takeWhile_isDigit_append (h : EndsNumber t) :
    (Nat.toDigits 10 n ++ t).takeWhile Char.isDigit = Nat.toDigits 10 n := by
  rw [List.takeWhile_append_of_pos fun _ => Numeral.isDigit_of_mem_decimal]
  have ht : t.takeWhile Char.isDigit = [] := by
    cases t
    case nil      => rfl
    case cons c t => exact List.takeWhile_cons_of_neg (by simp [h c t rfl])
  rw [ht, List.append_nil]

-- All of the digits are read at once, even if the first one is a zero.
theorem whole_toDigits (h : EndsNumber t) :
    (if (Nat.toDigits 10 n ++ t).head? = some '0' then ['0'] else (Nat.toDigits 10 n ++ t).takeWhile Char.isDigit) =
      Nat.toDigits 10 n := by
  rw [List.head?_append_of_ne_nil _ Nat.toDigits_ne_nil, takeWhile_isDigit_append h]
  by_cases hn : n = 0
  case pos => rw [hn]; rfl
  case neg => exact if_neg (Numeral.head?_toDigits hn)

theorem scanNumber_toDigits (h : EndsNumber t) (hn : n < Numeral.integerLimit) :
    scanNumber false (Nat.toDigits 10 n ++ t) = .ok (.integer n, t) := by
  simp only [scanNumber, whole_toDigits h, List.drop_left, Numeral.readInteger_toDigits hn]
  cases t
  case nil      => simp [Nat.toDigits_ne_nil]
  case cons c t =>
    have ⟨_, hp, he, hE⟩ := h c t rfl
    simp [Nat.toDigits_ne_nil, hp, he, hE]

-- A number begins with a digit, which none of the words does.
theorem scanScalar_digit (h : c.isDigit) : scanScalar (c :: s) = scanNumber false (c :: s) := by
  have hne (x : Char) (hx : x.isDigit = false) : x ≠ c := by rintro rfl; simp [h] at hx
  have hw : ∀ w ∈ words, ¬ w.1.isPrefixOf (c :: s) := by simp [words, hne]
  rw [scanScalar, List.find?_eq_none.mpr hw]
  rintro t ⟨⟩
  contradiction

theorem scanValue_digit (h : c.isDigit) : scanValue (fuel + 1) (c :: s) = scanNumber false (c :: s) := by
  rw [← scanScalar_digit h]
  unfold scanValue
  split
  case h_1 he => cases he; contradiction
  case h_2 he => cases he; contradiction
  case h_3 he => cases he; contradiction
  case h_4    => rfl

theorem scanValue_number (h : EndsNumber t) (hn : n < Numeral.integerLimit) :
    scanValue (fuel + 1) (Nat.toDigits 10 n ++ t) = .ok (.integer n, t) := by
  rw [← scanNumber_toDigits h hn]
  cases hs : Nat.toDigits 10 n
  case nil       => exact absurd hs Nat.toDigits_ne_nil
  case cons c ds => exact scanValue_digit (Numeral.isDigit_of_mem_decimal (n := n) (by simp [hs]))

theorem skipSpace_toDigits : skipSpace (' ' :: (Nat.toDigits 10 n ++ t)) = Nat.toDigits 10 n ++ t := by
  cases hs : Nat.toDigits 10 n
  case nil       => exact absurd hs Nat.toDigits_ne_nil
  case cons c ds =>
    have hc : c.isDigit := Numeral.isDigit_of_mem_decimal (n := n) (by simp [hs])
    have hne (x : Char) (hx : x.isDigit = false) : c ≠ x := by rintro rfl; simp [hc] at hx
    have hs : isSpace c = false := by simp [isSpace, hne]
    exact skipSpace_of_not_isSpace hs

section Entries

variable {item : List Char → Except Fault (Scanned (String × Value))} {e : String × Value}
  {entries : List (String × Value)} {key text : String} {v : Value}

-- A key as it is written in front of its value.
def keyed (key : String) (s : List Char) : List Char :=
  '"' :: (key.toList ++ '"' :: ':' :: ' ' :: s)

theorem scanEntry_keyed {value : List Char → Except Fault (Scanned Value)} (hk : key.toList.all isPlain)
    (hs : skipSpace (' ' :: s) = s) (hv : value s = .ok (v, t)) :
    scanEntry value (keyed key s) = .ok ((key, v), t) := by
  rw [keyed, scanEntry, scanText_plain hk, ok_bind]
  dsimp only
  rw [skipSpace_of_not_isSpace (by decide)]
  simp only [hs, hv, String.ofList_toList]
  rfl

theorem scanEntry_number (hk : key.toList.all isPlain) (h : EndsNumber t) (hn : n < Numeral.integerLimit) :
    scanEntry (scanValue (fuel + 1)) (keyed key (Nat.toDigits 10 n ++ t)) = .ok ((key, .integer n), t) :=
  scanEntry_keyed hk skipSpace_toDigits (scanValue_number h hn)

theorem scanEntry_text (hk : key.toList.all isPlain) (hs : text.toList.all isPlain) :
    scanEntry (scanValue (fuel + 1)) (keyed key ('"' :: (text.toList ++ '"' :: t))) =
      .ok ((key, .text text), t) := by
  have h : scanValue (fuel + 1) ('"' :: (text.toList ++ '"' :: t)) = .ok (.text (String.ofList text.toList), t) :=
    scanValue_text hs
  rw [String.ofList_toList] at h
  exact scanEntry_keyed hk rfl h

theorem scanItems_more (he : item s = .ok (e, ',' :: t))
    (ht : scanItems '}' item fuel (skipSpace t) = .ok (entries, u)) :
    scanItems '}' item (fuel + 1) s = .ok (e :: entries, u) := by
  rw [scanItems, he, ok_bind]
  dsimp only
  rw [skipSpace_of_not_isSpace (by decide)]
  simp only [ht]
  rfl

theorem scanItems_last (he : item s = .ok (e, t)) (ht : skipSpace t = '}' :: u) :
    scanItems '}' item (fuel + 1) s = .ok ([e], u) := by
  rw [scanItems, he, ok_bind]
  dsimp only
  rw [ht]
  rfl

theorem scanValue_object (hs : skipSpace s = keyed key t)
    (hi : scanItems '}' (scanEntry (scanValue fuel)) ((keyed key t).length + 1) (keyed key t) = .ok (entries, u)) :
    scanValue (fuel + 1) ('{' :: s) = .ok (.object entries, u) := by
  rw [scanValue, hs]
  dsimp only
  split
  case h_1 he => cases he
  case h_2    => rw [hi]; rfl

end Entries

end TypedResources.Json
