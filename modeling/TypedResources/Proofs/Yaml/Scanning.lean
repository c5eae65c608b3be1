import Mathlib.Data.List.TakeWhile
import TypedResources.Yaml.Document

-- What scanning a YAML stream fails by. Almost everything that is wrong is one fault; the others are an
-- escape that names no code point and the number of a version with more digits than are read. Both stand
-- in the text (`unscannable_of_tokens`).

namespace TypedResources.Yaml

variable {ε α β : Type} {P : ε → Prop} {Q : α → Prop} {R : β → Prop} {r : Except ε α} {c : Cursor} {s : Scanner}
  {text : List Char} {p : Char → Bool} {fuel : Nat}

-- A result has a property, or a fault has another one.
inductive Yields (P : ε → Prop) (Q : α → Prop) : Except ε α → Prop
  | ok {a : α} (h : Q a)    : Yields P Q (.ok a)
  | error {e : ε} (h : P e) : Yields P Q (.error e)

namespace Yields

theorem of_error {e : ε} (h : Yields P Q (.error e)) : P e := by
  cases h
  assumption

theorem bind_of_eq {k : α → Except ε β} (h : Yields P Q r) (hk : ∀ a, r = .ok a → Q a → Yields P R (k a)) :
    Yields P R (r >>= k) := by
  cases h
  case ok h    => exact hk _ rfl h
  case error h => exact .error h

theorem bind {k : α → Except ε β} (h : Yields P Q r) (hk : ∀ a, Q a → Yields P R (k a)) :
    Yields P R (r >>= k) :=
  h.bind_of_eq fun a _ => hk a

-- What follows a test counts only where the test does not fail.
theorem guard {b : Prop} [Decidable b] {e : ε} {k : PUnit → Except ε α} (he : P e) (hk : Yields P Q (k ⟨⟩)) :
    Yields P Q (if b then Except.error e >>= k else k ⟨⟩) := by
  split
  case isTrue  => exact .error he
  case isFalse => exact hk

theorem map {g : α → β} (h : Yields P Q r) (hg : ∀ a, Q a → R (g a)) : Yields P R (r.map g) := by
  cases h
  case ok h    => exact .ok (hg _ h)
  case error h => exact .error h

theorem mono {Q' : α → Prop} (h : Yields P Q r) (hq : ∀ a, Q a → Q' a) : Yields P Q' r := by
  cases h
  case ok h    => exact .ok (hq _ h)
  case error h => exact .error h

theorem ite {b : Prop} [Decidable b] {r' : Except ε α} (h : b → Yields P Q r) (h' : ¬b → Yields P Q r') :
    Yields P Q (if b then r else r') := by
  split
  case isTrue hb  => exact h hb
  case isFalse hb => exact h' hb

end Yields

-- The code that hexadecimal digits make up.
def hexCode? (digits : List Char) : Option Nat :=
  (digits.mapM hexValue?).map (·.foldl (fun m d => m * 16 + d) 0)

inductive Unscannable (text : List Char) : Fault → Prop
  | malformed : Unscannable text .malformed
  -- An escape of eight digits names a code point beyond the last one.
  | codePoint {digits : List Char} {code : Nat} (ht : '\\' :: 'U' :: digits <:+: text) (hl : digits.length = 8)
      (hd : hexCode? digits = some code) (hc : 0x110000 ≤ code) : Unscannable text (.codePoint code)
  -- The number of a version is too long to be read.
  | version {digits : List Char} (ht : digits <:+: text) (hd : ∀ d ∈ digits, d.isDigit)
      (hl : Numeral.digitLimit < digits.length) : Unscannable text (.numeral (.tooLong digits.length))

namespace Cursor

-- What is ahead of the place is a part of the text.
def In (c : Cursor) (text : List Char) : Prop :=
  c.rest <:+ text

@[simp]
theorem step_rest : c.step.rest = c.rest.tail := by
  unfold step
  split
  case h_1 h => rw [h]; rfl
  case h_2 h =>
    rw [h]
    split
    case isTrue  => rfl
    case isFalse => split <;> rfl

@[simp]
theorem forward_rest (n : Nat) : (c.forward n).rest = c.rest.drop n := by
  induction n generalizing c
  case zero      => rfl
  case succ n ih => rw [forward, ih, step_rest, ← List.drop_one, List.drop_drop, Nat.add_comm]

namespace In

theorem of_suffix {d : Cursor} (h : c.In text) (hd : d.rest <:+ c.rest) : d.In text :=
  hd.trans h

theorem step (h : c.In text) : c.step.In text :=
  h.of_suffix (by rw [step_rest]; exact List.tail_suffix _)

theorem forward (h : c.In text) (n : Nat) : (c.forward n).In text :=
  h.of_suffix (by rw [forward_rest]; exact List.drop_suffix _ _)

theorem run (h : c.In text) (p : Char → Bool) : (c.run p).2.In text :=
  h.forward _

theorem skip (h : c.In text) (p : Char → Bool) : (c.skip p).In text :=
  h.run p

theorem skipSpaces (h : c.In text) : c.skipSpaces.In text :=
  h.skip _

theorem skipComment (h : c.In text) : c.skipComment.In text := by
  unfold Cursor.skipComment
  split
  case isTrue  => exact h.skip _
  case isFalse => exact h

theorem lineBreak (h : c.In text) : c.lineBreak.2.In text := by
  unfold Cursor.lineBreak
  dsimp only
  split
  case isTrue  => exact h.forward 2
  case isFalse =>
    split
    case isTrue  => exact h.step
    case isFalse =>
      split
      case isTrue  => exact h.step
      case isFalse => exact h

end In

-- A character that is not the end mark stands at the place.
theorem rest_eq_of_head {d : Char} (h : c.head = d) (hd : d ≠ endMark) : c.rest = d :: c.step.rest := by
  unfold head peek at h
  rw [step_rest]
  cases hr : c.rest
  case nil  => rw [hr] at h; exact absurd h.symm hd
  case cons => rw [hr] at h; cases h; rfl

end Cursor

open Cursor (In)

-- Scanning goes on in the text, or it fails by what stands there.
abbrev Scans (text : List Char) : Except Fault (α × Cursor) → Prop :=
  Yields (Unscannable text) fun x => x.2.In text

theorem yields_ignoredLine (h : c.In text) : Yields (Unscannable text) (In · text) c.ignoredLine := by
  unfold Cursor.ignoredLine
  dsimp only
  split
  case isTrue  => exact .ok h.skipSpaces.skipComment.lineBreak
  case isFalse => exact .error .malformed

theorem scans_scanDigits (h : c.In text) : Scans text (scanDigits c) := by
  unfold scanDigits
  dsimp only
  split
  case isTrue  => exact .error .malformed
  case isFalse =>
    split
    case isTrue hl =>
      refine .error (.version ?_ (fun d hd => List.mem_takeWhile_imp hd) hl)
      exact (List.takeWhile_prefix _).isInfix.trans h.isInfix
    case isFalse => exact .ok (h.run _)

theorem scans_scanHex (h : c.In text) (n : Nat) : Scans text (scanHex n c) := by
  unfold scanHex
  split
  case h_1 =>
    split
    case isTrue  => exact .error .malformed
    case isFalse => exact .ok (h.forward n)
  case h_2 => exact .error .malformed

theorem scans_scanEscapedBytes (h : c.In text) : Scans text (scanEscapedBytes fuel c) := by
  induction fuel generalizing c
  case zero         => exact .ok h
  case succ fuel ih =>
    rw [scanEscapedBytes]
    split
    case isTrue  => exact .ok h
    case isFalse => exact (scans_scanHex h.step 2).bind fun _ hn => (ih hn).bind fun _ hb => .ok hb

theorem scans_scanUriPieces (h : c.In text) : Scans text (scanUriPieces fuel c) := by
  induction fuel generalizing c
  case zero         => exact .ok h
  case succ fuel ih =>
    rw [scanUriPieces]
    split
    case isTrue  =>
      refine (scans_scanEscapedBytes h).bind fun _ hb => ?_
      dsimp only
      split
      case h_1 => exact (ih hb).bind fun _ hr => .ok hr
      case h_2 => exact .error .malformed
    case isFalse =>
      split
      case isTrue  => exact (ih (h.run _)).bind fun _ hr => .ok hr
      case isFalse => exact .ok h

theorem scans_scanUri (h : c.In text) : Scans text (scanUri c) := by
  unfold scanUri
  exact .guard .malformed (scans_scanUriPieces h)

theorem scans_scanHandle (h : c.In text) : Scans text (scanHandle c) := by
  unfold scanHandle
  refine .guard .malformed ?_
  split
  case isTrue  => exact .ok h.step
  case isFalse => exact .guard .malformed (.ok (h.step.run _).step)

theorem scans_scanDirective (h : c.In text) : Scans text (scanDirective c) := by
  unfold scanDirective
  have hn := h.step.run isNameChar
  refine .guard .malformed ?_
  split
  case isTrue =>
    refine (scans_scanDigits hn.skipSpaces).bind fun x hx => .guard .malformed ?_
    refine (scans_scanDigits hx.step).bind fun y hy => .guard .malformed ?_
    exact (yields_ignoredLine hy).bind fun _ hc => .ok hc
  case isFalse =>
    split
    case isTrue =>
      refine (scans_scanHandle hn.skipSpaces).bind fun x hx => .guard .malformed ?_
      refine (scans_scanUri hx.skipSpaces).bind fun y hy => .guard .malformed ?_
      exact (yields_ignoredLine hy).bind fun _ hc => .ok hc
    case isFalse => exact (yields_ignoredLine (hn.skip (!isBreakOrEnd ·))).bind fun _ hc => .ok hc

theorem scans_scanAnchor (h : c.In text) : Scans text (scanAnchor c) := by
  unfold scanAnchor
  dsimp only
  split
  case isTrue  => exact .error .malformed
  case isFalse =>
    split
    case isTrue  => exact .ok (h.step.run _)
    case isFalse => exact .error .malformed

theorem scans_finish {handle : Option (List Char)} {suffix : List Char} (h : c.In text) :
    Scans text (scanTag.finish handle suffix c) := by
  unfold scanTag.finish
  split
  case isTrue  => exact .ok h
  case isFalse => exact .error .malformed

theorem scans_scanTag (h : c.In text) : Scans text (scanTag c) := by
  unfold scanTag
  split
  case isTrue =>
    exact (scans_scanUri (h.forward 2)).bind fun _ hx => .guard .malformed (scans_finish hx.step)
  case isFalse =>
    split
    case isTrue  => exact scans_finish h.step
    case isFalse =>
      split
      case isTrue  =>
        exact (scans_scanHandle h).bind fun _ hx => (scans_scanUri hx).bind fun _ hy => scans_finish hy
      case isFalse => exact (scans_scanUri h.step).bind fun _ hx => scans_finish hx

theorem in_scanBlockBreaks {indent : Nat} (h : c.In text) : (scanBlockBreaks indent fuel c).2.In text := by
  induction fuel generalizing c
  case zero         => exact h
  case succ fuel ih =>
    rw [scanBlockBreaks]
    dsimp only
    split
    case isTrue  => exact ih (h.forward _).lineBreak
    case isFalse => exact h.forward _

theorem in_scanBlockIndentation {widest : Nat} (h : c.In text) :
    (scanBlockIndentation widest fuel c).2.2.In text := by
  induction fuel generalizing c widest
  case zero         => exact h
  case succ fuel ih =>
    rw [scanBlockIndentation]
    dsimp only
    split
    case isTrue  => exact ih h.skipSpaces.lineBreak
    case isFalse => exact h.skipSpaces

theorem in_scanBlockLines {folded : Bool} {chomping : Chomping} {indent : Nat} {breaks : List Char} (h : c.In text) :
    (scanBlockLines folded chomping indent fuel breaks c).2.In text := by
  induction fuel generalizing c breaks
  case zero         => exact h
  case succ fuel ih =>
    rw [scanBlockLines]
    dsimp only
    split <;> dsimp only
    case isTrue  => exact ih (in_scanBlockBreaks (h.run _).lineBreak)
    case isFalse => exact in_scanBlockBreaks (h.run _).lineBreak

theorem scans_scanIncrement (h : c.In text) : Scans text (scanIncrement c) := by
  unfold scanIncrement
  split
  case isTrue  => exact .error .malformed
  case isFalse =>
    split
    case isTrue  => exact .ok h.step
    case isFalse => exact .ok h

theorem yields_scanBlockHeader (h : c.In text) :
    Yields (Unscannable text) (fun x => x.2.2.In text) (scanBlockHeader c) := by
  have hend {chomping : Chomping} {increment : Option Nat} {c : Cursor} (h : c.In text) :
      Yields (Unscannable text) (fun x => x.2.2.In text)
        (if isSpaceOrEnd c.head then pure (chomping, increment, c) else .error Fault.malformed) := by
    split
    case isTrue  => exact .ok h
    case isFalse => exact .error .malformed
  unfold scanBlockHeader
  split
  case h_1 => exact (scans_scanIncrement h.step).bind fun _ hx => hend hx
  case h_2 =>
    refine (scans_scanIncrement h).bind fun x hx => ?_
    dsimp only
    split
    case h_1 => exact hend hx.step
    case h_2 => exact hend hx

theorem scans_scanBlockScalar {folded : Bool} {indent : Int} (h : c.In text) :
    Scans text (scanBlockScalar folded indent c) := by
  unfold scanBlockScalar
  refine (yields_scanBlockHeader h.step).bind fun x hx => (yields_ignoredLine hx).bind fun c hc => ?_
  rcases x with ⟨chomping, - | n, -⟩
  case none =>
    have hd : (scanBlockIndentation 0 (c.rest.length + 1) c).2.2.In text := in_scanBlockIndentation hc
    dsimp only
    split
    case isTrue  => exact .ok (in_scanBlockLines hd)
    case isFalse => exact .ok hd
  case some =>
    have hd : (scanBlockBreaks ((max (indent + 1) 1).toNat + n - 1) (c.rest.length + 1) c).2.In text :=
      in_scanBlockBreaks hc
    dsimp only
    split
    case isTrue  => exact .ok (in_scanBlockLines hd)
    case isFalse => exact .ok hd

theorem scans_scanQuotedBreaks (h : c.In text) : Scans text (scanQuotedBreaks fuel c) := by
  induction fuel generalizing c
  case zero         => exact .ok h
  case succ fuel ih =>
    rw [scanQuotedBreaks]
    refine .guard .malformed ?_
    dsimp only
    split
    case isTrue  => exact (ih (h.skip _).lineBreak).bind fun _ hr => .ok hr
    case isFalse => exact .ok (h.skip _)

theorem scans_scanQuotedSpaces (h : c.In text) : Scans text (scanQuotedSpaces c) := by
  unfold scanQuotedSpaces
  have hr := h.run fun d => d = ' ' || d = '\t'
  refine .guard .malformed ?_
  split
  case isFalse => exact .ok hr
  case isTrue  =>
    dsimp only
    refine (scans_scanQuotedBreaks hr.lineBreak).bind fun x hx => ?_
    split
    case isTrue  => exact .ok hx
    case isFalse => split <;> exact .ok hx

theorem hexValue?_lt {d : Char} {n : Nat} (h : hexValue? d = some n) : n < 16 := by
  have hle (a b : Char) : a ≤ b ↔ a.toNat ≤ b.toNat := Iff.rfl
  unfold hexValue? at h
  simp only [hle, Bool.and_eq_true, decide_eq_true_eq] at h
  have h0 : '0'.toNat = 48 := rfl
  have h9 : '9'.toNat = 57 := rfl
  have ha : 'a'.toNat = 97 := rfl
  have hf : 'f'.toNat = 102 := rfl
  have hA : 'A'.toNat = 65 := rfl
  have hF : 'F'.toNat = 70 := rfl
  split at h
  · cases h; omega
  · split at h
    · cases h; omega
    · split at h <;> cases h
      omega

theorem foldl_hexValues_lt {digits : List Char} {ds : List Nat} (h : digits.mapM hexValue? = some ds) (m : Nat) :
    ds.foldl (fun m d => m * 16 + d) m < (m + 1) * Nat.pow 16 digits.length := by
  induction digits generalizing ds m
  case nil           => cases h; simp
  case cons c t ih =>
    rw [List.mapM_cons] at h
    obtain ⟨d, hd, h⟩ := Option.bind_eq_some_iff.mp h
    obtain ⟨ds, hds, h⟩ := Option.bind_eq_some_iff.mp h
    cases h
    have hlt := hexValue?_lt hd
    calc ds.foldl (fun m d => m * 16 + d) (m * 16 + d)
        < (m * 16 + d + 1) * Nat.pow 16 t.length := ih hds _
      _ ≤ ((m + 1) * 16) * Nat.pow 16 t.length   := Nat.mul_le_mul_right _ (by omega)
      _ = (m + 1) * Nat.pow 16 (t.length + 1)    := by rw [Nat.mul_assoc, Nat.mul_comm 16]; rfl

theorem length_of_mapM {γ δ : Type} {f : γ → Option δ} {l : List γ} {m : List δ} (h : l.mapM f = some m) :
    m.length = l.length := by
  induction l generalizing m
  case nil         => cases h; rfl
  case cons x l ih =>
    rw [List.mapM_cons] at h
    obtain ⟨y, -, h⟩ := Option.bind_eq_some_iff.mp h
    obtain ⟨m, hm, h⟩ := Option.bind_eq_some_iff.mp h
    cases h
    exact congrArg (· + 1) (ih hm)

theorem hexCode?_lt {digits : List Char} {code : Nat} (h : hexCode? digits = some code) :
    code < Nat.pow 16 digits.length := by
  obtain ⟨ds, hds, rfl⟩ := Option.map_eq_some_iff.mp h
  simpa using foldl_hexValues_lt hds 0

theorem of_scanHex {n code : Nat} {d : Cursor} (h : scanHex n c = .ok (code, d)) :
    ∃ digits, digits <+: c.rest ∧ digits.length = n ∧ hexCode? digits = some code := by
  unfold scanHex at h
  split at h
  case h_2 => cases h
  case h_1 ds hds =>
    split at h
    case isTrue     => cases h
    case isFalse hl =>
      cases h
      refine ⟨c.rest.take n, List.take_prefix n _, ?_, by rw [hexCode?, hds]; rfl⟩
      have hle := List.length_take_le n c.rest
      rw [length_of_mapM hds] at hl
      omega

-- Of the escapes only the longest can name no code point.
theorem eq_of_escapeWidths {d : Char} {digits : List Char} {code : Nat}
    (hw : escapeWidths.lookup d = some digits.length) (h : hexCode? digits = some code) (hc : 0x110000 ≤ code) :
    d = 'U' ∧ digits.length = 8 := by
  have hlt := hexCode?_lt h
  have hm : (d, digits.length) ∈ escapeWidths := by
    obtain ⟨l, r, he, -⟩ := List.lookup_eq_some_iff.mp hw
    simp [he]
  simp only [escapeWidths, List.mem_cons, Prod.mk.injEq, List.not_mem_nil, or_false] at hm
  rcases hm with ⟨-, hl⟩ | ⟨-, hl⟩ | hm
  case inl     => rw [hl, show Nat.pow 16 2 = 256 from rfl] at hlt; omega
  case inr.inl => rw [hl, show Nat.pow 16 4 = 65536 from rfl] at hlt; omega
  case inr.inr => exact hm

theorem scans_scanEscape (h : c.In text) (hc : c.head = '\\') : Scans text (scanEscape c.step) := by
  unfold scanEscape
  dsimp only
  split
  case h_1 => exact .ok h.step.step
  case h_2 width hw _ =>
    refine (scans_scanHex h.step.step width).bind_of_eq fun (code, d) hx hd => ?_
    dsimp only
    split
    case isFalse     => exact .ok hd
    case isTrue hlt =>
      obtain ⟨digits, hp, rfl, hcode⟩ := of_scanHex hx
      obtain ⟨hU, hl⟩ := eq_of_escapeWidths hw hcode hlt
      refine .error (.codePoint ?_ hl hcode hlt)
      have hp : '\\' :: 'U' :: digits <+: c.rest := by
        rw [c.rest_eq_of_head hc (by decide), c.step.rest_eq_of_head hU (by decide)]
        exact List.prefix_cons_inj _ |>.mpr (List.prefix_cons_inj _ |>.mpr hp)
      exact hp.isInfix.trans h.isInfix
  case h_3 =>
    split
    case isTrue  => exact (scans_scanQuotedBreaks h.step.lineBreak).bind fun _ hx => .ok hx
    case isFalse => exact .error .malformed

theorem scans_scanQuoted {quote : Char} (h : c.In text) : Scans text (scanQuoted quote fuel c) := by
  induction fuel generalizing c
  case zero         => exact .error .malformed
  case succ fuel ih =>
    have hgo {r : Except Fault (Text.Points × Cursor)} (hr : Scans text r) : Scans text (do
        let x ← r
        let y ← scanQuoted quote fuel x.2
        return (x.1 ++ y.1, y.2)) :=
      hr.bind fun _ hx => (ih hx).bind fun _ hy => .ok hy
    rw [scanQuoted]
    dsimp only
    split
    case isTrue =>
      split
      case isTrue  => exact hgo (.ok (h.forward 2))
      case isFalse => exact .ok h.step
    case isFalse =>
      split
      case isTrue hc =>
        have hc : c.head = '\\' := by simp_all
        exact hgo (scans_scanEscape h hc)
      case isFalse =>
        split
        case isTrue  => exact (scans_scanQuotedSpaces h).bind fun x hx => hgo (r := .ok (.ofChars x.1, x.2)) (.ok hx)
        case isFalse => exact hgo (.ok h.step)

theorem scans_quotedScalar {quote : Char} (h : c.In text) : Scans text (Scanner.quotedScalar quote c) := by
  unfold Scanner.quotedScalar
  exact (scans_scanQuoted h.step).bind fun _ hx => .ok hx

theorem in_scanPlainBreaks (h : c.In text) : (scanPlainBreaks fuel c).2.In text := by
  induction fuel generalizing c
  case zero         => exact h
  case succ fuel ih =>
    rw [scanPlainBreaks]
    split
    case isTrue  => exact h
    case isFalse =>
      dsimp only
      split
      case isTrue  => exact ih h.skipSpaces.lineBreak
      case isFalse => exact h.skipSpaces

theorem in_scanPlainSpaces (h : c.In text) : (scanPlainSpaces c).2.2.In text := by
  unfold scanPlainSpaces
  dsimp only
  split
  case isTrue  => exact in_scanPlainBreaks (h.run _).lineBreak
  case isFalse => exact h.run _

theorem in_scanPlain {inFlow : Bool} {indent : Int} {before : List Char} {mayKey : Bool} (h : c.In text) :
    (scanPlain inFlow indent fuel before mayKey c).2.2.In text := by
  induction fuel generalizing c before mayKey
  case zero         => exact h
  case succ fuel ih =>
    rw [scanPlain]
    generalize (if c.head = '#' then [] else takePlain inFlow c.rest) = plain
    split
    case isTrue  => exact h
    case isFalse =>
      have hs := in_scanPlainSpaces (h.forward plain.length)
      dsimp only
      split
      case h_1 => exact hs
      case h_2 =>
        split
        case isTrue  => exact hs
        case isFalse => exact ih hs

namespace Scanner

def In (s : Scanner) (text : List Char) : Prop :=
  s.cursor.In text

-- The scanner goes on in the text, or it fails by what stands there.
abbrev Steps (text : List Char) : Except Fault Scanner → Prop :=
  Yields (Unscannable text) (In · text)

theorem cursor_unwind (column : Int) : (s.unwind column).cursor = s.cursor := by
  have hgo (l : List Int) (s : Scanner) : (unwind.go column l s).cursor = s.cursor := by
    induction l generalizing s
    case nil         => rfl
    case cons i t ih =>
      rw [unwind.go]
      split
      case isTrue  => exact ih _
      case isFalse => rfl
  unfold unwind
  split
  case isTrue  => rfl
  case isFalse => exact hgo _ _

namespace In

theorem unwind (h : s.In text) (column : Int) : (s.unwind column).In text := by
  rw [In, cursor_unwind]
  exact h

theorem skipToToken (h : s.In text) : s.skipToToken.In text := by
  have hgo (fuel : Nat) {s : Scanner} (h : s.In text) : (skipToToken.go fuel s).In text := by
    induction fuel generalizing s
    case zero         => exact h
    case succ fuel ih =>
      rw [skipToToken.go]
      split
      case isTrue  => exact ih (Cursor.In.skipSpaces h).skipComment.lineBreak
      case isFalse => exact (Cursor.In.skipSpaces h).skipComment
  unfold Scanner.skipToToken
  dsimp only
  split
  case isTrue  => exact hgo _ (Cursor.In.step h)
  case isFalse => exact hgo _ h

end In

theorem steps_dropStale (h : s.In text) : Steps text s.dropStale := by
  unfold dropStale
  dsimp only
  split
  case isTrue  => exact .error .malformed
  case isFalse => exact .ok h

theorem steps_dropKey (h : s.In text) : Steps text s.dropKey := by
  unfold dropKey
  split
  case isTrue  => exact .error .malformed
  case isFalse => exact .ok h

theorem steps_saveKey (h : s.In text) : Steps text s.saveKey := by
  unfold saveKey
  split
  case isTrue  => exact .ok h
  case isFalse => exact (steps_dropKey h).bind fun _ hs => .ok hs

theorem steps_documentMark {t : Token} (h : s.In text) : Steps text (s.documentMark t) :=
  (steps_dropKey (h.unwind _)).bind fun _ hs => .ok (Cursor.In.forward hs 3)

theorem steps_flowStart {t : Token} (h : s.In text) : Steps text (s.flowStart t) :=
  (steps_saveKey h).bind fun _ hs => .ok (Cursor.In.forward hs 1)

theorem steps_flowEnd {t : Token} (h : s.In text) : Steps text (s.flowEnd t) :=
  (steps_dropKey h).bind fun _ hs => .ok (Cursor.In.forward hs 1)

theorem cursor_addIndent (column : Nat) : (s.addIndent column).2.cursor = s.cursor := by
  unfold addIndent
  split <;> rfl

theorem steps_openBlock {t : Token} (h : s.In text) : Steps text (s.openBlock t) := by
  unfold openBlock
  split
  case isTrue  => exact .ok h
  case isFalse =>
    split
    case isTrue  => exact .error .malformed
    case isFalse =>
      have ha : (s.addIndent s.cursor.column).2.In text := by rw [In, cursor_addIndent]; exact h
      dsimp only
      split <;> exact .ok ha

theorem steps_entryMark (h : s.In text) : Steps text s.entryMark := by
  refine (steps_openBlock h).bind fun s hs => ?_
  exact (steps_dropKey (s := { s with mayKey := true }) hs).bind fun _ hs => .ok (Cursor.In.forward hs 1)

-- A key mark, or a value mark without a key.
theorem steps_mark {t : Token} (h : s.In text) : Steps text (do
    let s ← s.openBlock .blockMappingStart
    let s ← { s with mayKey := !s.inFlow }.dropKey
    return (s.forward 1).push t) := by
  refine (steps_openBlock h).bind fun s hs => ?_
  exact (steps_dropKey (s := { s with mayKey := !s.inFlow }) hs).bind fun _ hs => .ok (Cursor.In.forward hs 1)

theorem steps_valueMark (h : s.In text) : Steps text s.valueMark := by
  unfold valueMark
  split
  case h_2   => exact steps_mark h
  case h_1 k _ =>
    refine .ok (Cursor.In.forward ?_ 1)
    dsimp only
    split
    case isTrue  => exact h
    case isFalse =>
      have ha {s : Scanner} (h : s.In text) : (s.addIndent k.column).2.In text := by
        rw [In, cursor_addIndent]
        exact h
      split <;> exact ha h

theorem steps_keyToken {scan : Cursor → Except Fault (Token × Cursor)} (h : s.In text)
    (hscan : ∀ c, c.In text → Scans text (scan c)) : Steps text (s.keyToken scan) :=
  (steps_saveKey h).bind fun _ hs => (hscan _ hs).bind fun _ hc => .ok hc

theorem steps_blockScalar {folded : Bool} (h : s.In text) : Steps text (s.blockScalar folded) :=
  (steps_dropKey h).bind fun _ hs => (scans_scanBlockScalar hs).bind fun _ hc => .ok hc

theorem steps_plainScalar (h : s.In text) : Steps text s.plainScalar := by
  unfold plainScalar
  dsimp only
  refine (steps_saveKey h).bind fun s hs => ?_
  have hp : (scanPlain s.inFlow (s.indent + 1) (s.cursor.rest.length + 1) [] false s.cursor).2.2.In text :=
    in_scanPlain hs
  exact .ok hp

theorem yields_next (h : s.In text) : Yields (Unscannable text) (fun x => x.2.In text) s.next := by
  unfold next
  refine (steps_dropStale h.skipToToken).bind fun s hs => ?_
  extract_lets s c isMark atStart rest
  have h : s.In text := hs.unwind _
  have hrest {r : Except Fault Scanner} (hr : Steps text r) :
      Yields (Unscannable text) (fun x => x.2.In text) (r >>= rest) :=
    hr.bind fun _ hs => .ok hs
  have hanchor (t : List Char → Token) {c : Cursor} (hc : c.In text) :
      Scans text ((scanAnchor c).map fun x => (t x.1, x.2)) :=
    (scans_scanAnchor hc).map fun _ hx => hx
  clear_value s
  -- One step for each of the marks by which a token begins, in the order in which they are tried.
  refine .ite (fun _ => (steps_dropKey (h.unwind _)).bind fun _ hs => .ok hs) fun _ => ?_
  refine .ite (fun _ => (steps_dropKey (h.unwind _)).bind fun _ hs =>
    (scans_scanDirective hs).bind fun _ hc => .ok hc) fun _ => ?_
  refine .ite (fun _ => hrest (steps_documentMark h)) fun _ => ?_
  refine .ite (fun _ => hrest (steps_flowStart h)) fun _ => ?_
  refine .ite (fun _ => hrest (steps_flowStart h)) fun _ => ?_
  refine .ite (fun _ => hrest (steps_flowEnd h)) fun _ => ?_
  refine .ite (fun _ => hrest (steps_flowEnd h)) fun _ => ?_
  refine .ite (fun _ => (steps_dropKey (s := { s with mayKey := true }) h).bind fun _ hs =>
    .ok (Cursor.In.forward hs 1)) fun _ => ?_
  refine .ite (fun _ => hrest (steps_entryMark h)) fun _ => ?_
  refine .ite (fun _ => hrest (steps_mark h)) fun _ => ?_
  refine .ite (fun _ => hrest (steps_valueMark h)) fun _ => ?_
  refine .ite (fun _ => hrest (steps_keyToken h fun _ => hanchor .alias)) fun _ => ?_
  refine .ite (fun _ => hrest (steps_keyToken h fun _ => hanchor .anchor)) fun _ => ?_
  refine .ite (fun _ => hrest (steps_keyToken h fun _ => scans_scanTag)) fun _ => ?_
  refine .ite (fun _ => hrest (steps_blockScalar h)) fun _ => ?_
  refine .ite (fun _ => hrest (steps_blockScalar h)) fun _ => ?_
  refine .ite (fun _ => hrest (steps_keyToken h fun _ => scans_quotedScalar)) fun _ => ?_
  exact .ite (fun _ => hrest (steps_plainScalar h)) fun _ => .error .malformed

-- A step of the scanner is not to be worked out in order to see that `run` goes on behind it.
attribute [local irreducible] next settled in
theorem run_succ (fuel : Nat) (s : Scanner) : run (fuel + 1) s = match s.next with
    | .error f       => (s.settled, some f)
    | .ok (true, s)  => (s.tokens, none)
    | .ok (false, s) => run fuel s := by
  rfl

theorem In.unscannable_of_run {f : Fault} (h : s.In text) (hr : (run fuel s).2 = some f) : Unscannable text f := by
  induction fuel generalizing s
  case zero         => cases hr; exact .malformed
  case succ fuel ih =>
    have hn := yields_next h
    rw [run_succ] at hr
    generalize s.next = r at hn hr
    cases hn
    case error hf => cases hr; exact hf
    case ok x hx  =>
      rcases x with ⟨⟨⟩, s⟩
      case false => exact ih hx hr
      case true  => cases hr

end Scanner

-- Where scanning a text ends with a fault, the fault stands in the text.
theorem unscannable_of_tokens {f : Fault} (h : (tokens text).2 = some f) : Unscannable text f := by
  unfold tokens at h
  split at h
  case isFalse => cases h; exact .malformed
  case isTrue  =>
    have hs : Scanner.In { cursor := { rest := text } } text := List.suffix_refl text
    dsimp only at h
    exact hs.unscannable_of_run h

end TypedResources.Yaml
