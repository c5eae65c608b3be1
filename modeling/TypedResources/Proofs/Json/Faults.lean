import TypedResources.Proofs.Json

-- What reading a text as JSON fails by. Whatever is malformed is one fault; the other one is an integer
-- with more digits than are read, and a text without so many digits in a row has none (`read_ne_number`).

namespace TypedResources.Json

variable {α β : Type} {c : Char} {s t : List Char} {r : Except Fault (Scanned α)} {fuel : Nat}

-- More digits in a row than are read as an integer.
def LongRun (s : List Char) : Prop :=
  ∃ run, run <:+: s ∧ (∀ c ∈ run, c.isDigit) ∧ Numeral.digitLimit < run.length

-- What a scanner may make of a text: something is read and the rest of the text is left, or the
-- text is malformed, or it has too many digits.
inductive Scans (s : List Char) : Except Fault (Scanned α) → Prop
  | ok {a : α} {t : List Char} (h : t <:+ s)   : Scans s (.ok (a, t))
  | malformed                                  : Scans s (.error .malformed)
  | number {f : Numeral.Fault} (h : LongRun s) : Scans s (.error (.number f))

theorem LongRun.of_suffix (h : LongRun t) (hs : t <:+ s) : LongRun s :=
  have ⟨run, hr, hd, hl⟩ := h
  ⟨run, hr.trans hs.isInfix, hd, hl⟩

namespace Scans

theorem of_suffix (h : Scans t r) (hs : t <:+ s) : Scans s r := by
  cases h
  case ok h      => exact .ok (h.trans hs)
  case malformed => exact .malformed
  case number h  => exact .number (h.of_suffix hs)

theorem bind {k : Scanned α → Except Fault (Scanned β)} (h : Scans s r)
    (hk : ∀ a t, t <:+ s → Scans s (k (a, t))) : Scans s (r >>= k) := by
  cases h
  case ok h      => exact hk _ _ h
  case malformed => exact .malformed
  case number h  => exact .number h

theorem map (h : Scans s r) (f : α → β) : Scans s (r.map fun (a, t) => (f a, t)) := by
  cases h
  case ok h      => exact .ok h
  case malformed => exact .malformed
  case number h  => exact .number h

end Scans

theorem skipSpace_suffix : skipSpace s <:+ s :=
  List.dropWhile_suffix _

theorem sign_suffix : (Numeral.sign s).2 <:+ s := by
  unfold Numeral.sign
  split
  case h_1 => exact List.suffix_cons ..
  case h_2 => exact List.suffix_cons ..
  case h_3 => exact List.suffix_refl _

theorem scans_scanText (skip : Nat) : Scans s (scanText skip s) := by
  fun_induction scanText skip s
  case case1                => exact .malformed
  case case2 ih             => exact ih.of_suffix (List.suffix_cons ..)
  case case3                => exact .ok (List.suffix_cons ..)
  case case4                => exact .malformed
  case case5 d _ _ _ _ ih   => exact (ih.map (d :: ·)).of_suffix (List.suffix_cons ..)
  case case6                => exact .malformed
  case case7 c _ _ _ _ ih   => exact (ih.map (c :: ·)).of_suffix (List.suffix_cons ..)

theorem scans_scanNumber (isNegative : Bool) : Scans s (scanNumber isNegative s) := by
  unfold scanNumber
  extract_lets whole rest fraction rest'
  have hrest : rest <:+ s := List.drop_suffix _ _
  have hrest' : rest' <:+ s := by
    unfold rest'
    split
    case isTrue  => exact hrest
    case isFalse => exact (List.drop_suffix _ _).trans hrest
  have hdigits : ∀ c ∈ whole, c.isDigit := by
    unfold whole
    split
    case isTrue  => simp
    case isFalse => exact fun c hc => List.mem_takeWhile_imp hc
  have hwhole : whole <:+: s := by
    unfold whole
    split
    case isFalse   => exact (List.takeWhile_prefix _).isInfix
    case isTrue hs =>
      cases s
      case nil      => cases hs
      case cons c s => cases hs; exact (List.prefix_append ['0'] s).isInfix
  clear_value rest'
  split
  case _ exponent rest'' he =>
    have hrest'' : rest'' <:+ s := by
      split at he
      case h_2 => cases he; exact hrest'
      case h_1 c t =>
        have ht : (Numeral.sign t).2 <:+ t := sign_suffix
        dsimp only at he
        split at he <;> cases he
        case isTrue  => exact ((List.drop_suffix _ _).trans ht).trans ((List.suffix_cons c t).trans hrest')
        case isFalse => exact hrest'
    split
    case isTrue     => exact .malformed
    case isFalse hn =>
      rw [Numeral.readInteger_of_isDigit hdigits hn]
      by_cases hl : Numeral.digitLimit < whole.length
      case pos =>
        rw [if_pos hl]
        split
        case isTrue  => exact .number ⟨whole, hwhole, hdigits, hl⟩
        case isFalse => exact .ok hrest''
      case neg =>
        rw [if_neg hl]
        split <;> exact .ok hrest''

theorem scans_scanScalar : Scans s (scanScalar s) := by
  unfold scanScalar
  split
  case h_1 => exact .ok (List.drop_suffix _ _)
  case h_2 =>
    split
    case h_1 => exact (scans_scanNumber true).of_suffix (List.suffix_cons ..)
    case h_2 => exact scans_scanNumber false

theorem scans_scanItems {close : Char} {item : List Char → Except Fault (Scanned α)} (hi : ∀ s, Scans s (item s)) :
    Scans s (scanItems close item fuel s) := by
  induction fuel generalizing s
  case zero         => exact .malformed
  case succ fuel ih =>
    rw [scanItems]
    refine (hi s).bind fun a t ht => ?_
    have hs : skipSpace t <:+ s := skipSpace_suffix.trans ht
    dsimp only
    split
    case h_3      => exact .malformed
    case h_1 u hu =>
      have hu : skipSpace u <:+ s := skipSpace_suffix.trans ((List.suffix_cons ..).trans (hu ▸ hs))
      exact (ih.of_suffix hu).bind fun as v hv => .ok hv
    case h_2 c u _ hu =>
      split
      case isTrue  => exact .ok ((List.suffix_cons ..).trans (hu ▸ hs))
      case isFalse => exact .malformed

theorem scans_scanEntry {value : List Char → Except Fault (Scanned Value)} (hv : ∀ s, Scans s (value s)) :
    Scans s (scanEntry value s) := by
  unfold scanEntry
  split
  case h_2   => exact .malformed
  case h_1 t =>
    refine ((scans_scanText 0).of_suffix (List.suffix_cons ..)).bind fun key u hu => ?_
    dsimp only
    split
    case h_2       => exact .malformed
    case h_1 w hw =>
      have hw : skipSpace w <:+ _ :=
        skipSpace_suffix.trans ((List.suffix_cons ..).trans (hw ▸ skipSpace_suffix.trans hu))
      exact ((hv _).of_suffix hw).bind fun v x hx => .ok hx

theorem scans_scanValue : Scans s (scanValue fuel s) := by
  induction fuel generalizing s
  case zero         => exact .malformed
  case succ fuel ih =>
    unfold scanValue
    split
    case h_1 t => exact ((scans_scanText 0).of_suffix (List.suffix_cons ..)).bind fun text u hu => .ok hu
    case h_2 t =>
      have ht : skipSpace t <:+ '[' :: t := skipSpace_suffix.trans (List.suffix_cons ..)
      split
      case h_1 u hu => exact .ok ((List.suffix_cons ..).trans (hu ▸ ht))
      case h_2      => exact ((scans_scanItems fun _ => ih).of_suffix ht).bind fun items u hu => .ok hu
    case h_3 t =>
      have ht : skipSpace t <:+ '{' :: t := skipSpace_suffix.trans (List.suffix_cons ..)
      split
      case h_1 u hu => exact .ok ((List.suffix_cons ..).trans (hu ▸ ht))
      case h_2      =>
        exact ((scans_scanItems fun _ => scans_scanEntry fun _ => ih).of_suffix ht).bind fun entries u hu => .ok hu
    case h_4   => exact scans_scanScalar

theorem scanNumber_of_not_isDigit {isNegative : Bool} (h : c.isDigit = false) :
    scanNumber isNegative (c :: s) = .error .malformed := by
  have hc : c ≠ '0' := by rintro rfl; contradiction
  have hw : (if (c :: s).head? = some '0' then ['0'] else (c :: s).takeWhile Char.isDigit) = [] := by simp [h, hc]
  simp only [scanNumber, hw]
  rfl

-- No value begins with it.
theorem read_byteOrderMark : read ('\uFEFF' :: s) = .error .malformed := by
  have hw : ∀ w ∈ words, ¬w.1.isPrefixOf ('\uFEFF' :: s) := by simp [words]
  have hs : scanScalar ('\uFEFF' :: s) = .error .malformed := by
    rw [scanScalar, List.find?_eq_none.mpr hw]
    exacts [scanNumber_of_not_isDigit rfl, by simp]
  rw [read, skipSpace_of_not_isSpace (by decide), List.length_cons, scanValue, hs]
  exacts [rfl, by simp, by simp, by simp]

theorem read_ne_number {f : Numeral.Fault} (h : ¬LongRun s) : read s ≠ .error (.number f) := by
  have hs : Scans s (scanValue (s.length + 1) (skipSpace s)) := scans_scanValue.of_suffix skipSpace_suffix
  unfold read
  cases hv : scanValue (s.length + 1) (skipSpace s) <;> rw [hv] at hs
  case ok    => dsimp only [ok_bind]; split <;> exact nofun
  case error =>
    rintro ⟨⟩
    cases hs
    case number hl => exact h hl

end TypedResources.Json
