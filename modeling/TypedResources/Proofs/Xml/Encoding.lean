import TypedResources.Proofs.Query
import TypedResources.Xml.Document

-- Encodings that are refused. A document whose declaration names one is not read (`parse_of_refusal?`),
-- and any other document is not read only where its text is malformed (`onlyMalformed_parse`).

namespace TypedResources.Xml

variable {bytes : Bytes} {encoding : Encoding} {name : List Char} {reason : Unreadable} {f : Failure}

-- The encoding that the declaration of a document names.
def encodingName? (bytes : Bytes) : Option (List Char) :=
  match Encoding.detect bytes with
  | .error _             => none
  | .ok (encoding, mark) =>
    let source := encoding.decode (bytes.drop mark)
    match scanMark source.stop source.chars with
    | .ok (.declaration body, _) => (declaration? body).bind Declaration.encoding
    | _                          => none

def isStandard (name : List Char) : Bool :=
  name.length < 128 && ["ISO-8859-1", "US-ASCII", "UTF-8", "UTF-16", "UTF-16BE", "UTF-16LE"].contains
    (String.ofList (name.map Char.toUpper))

-- Why a name is refused. A standard one never is.
def refusal? (name : List Char) : Option Unreadable :=
  if isStandard name then none
  else match charset name with
    | .error reason => some reason
    | .ok _         => none

-- The failures of a reading are those of a malformed text.
def OnlyMalformed {α : Type} (r : Except Failure α) : Prop :=
  ∀ f, r = .error f → ∃ fault, f = .malformed fault

section

variable {α β : Type}

theorem onlyMalformed_ok (a : α) : OnlyMalformed (.ok a) :=
  nofun

theorem onlyMalformed_error (fault : Fault) : OnlyMalformed (.error (.malformed fault) : Except Failure α) := by
  rintro _ ⟨⟩
  exact ⟨fault, rfl⟩

theorem onlyMalformed_malformed (r : Except Fault α) : OnlyMalformed (malformed r) := by
  cases r
  case error fault => exact onlyMalformed_error fault
  case ok a        => exact onlyMalformed_ok a

theorem ok_of_malformed {r : Except Fault α} {a : α} (h : malformed r = .ok a) : r = .ok a := by
  cases r <;> cases h
  rfl

theorem OnlyMalformed.bind {r : Except Failure α} {g : α → Except Failure β} (hr : OnlyMalformed r)
    (hg : ∀ a, r = .ok a → OnlyMalformed (g a)) : OnlyMalformed (r >>= g) := by
  cases r
  case error f => exact fun _ hf => hr _ (Except.error.inj hf ▸ rfl)
  case ok a    => exact hg a rfl

end

theorem named_of_refusal? (h : refusal? name = some reason) :
    encoding.named name = .error (.unreadable reason (String.ofList name)) := by
  unfold refusal? at h
  split at h
  case isTrue     => cases h
  case isFalse hs =>
    unfold Encoding.named
    dsimp only
    split
    case h_1 e he =>
      split at he
      case isTrue     => cases he
      case isFalse hl => split at he <;> simp_all [isStandard]
    case h_2 => split at h <;> simp_all

theorem onlyMalformed_named (h : refusal? name = none) : OnlyMalformed (encoding.named name) := by
  intro f hf
  unfold Encoding.named at hf
  dsimp only at hf
  split at hf
  case h_1 =>
    split at hf <;> cases hf
    exact ⟨_, rfl⟩
  case h_2 he =>
    have hs : isStandard name = false := by
      refine Bool.eq_false_iff.mpr fun hs => ?_
      split at he
      case isTrue hl => simp [isStandard, Nat.not_lt.mpr hl] at hs
      case isFalse   => split at he <;> simp_all [isStandard]
    rw [refusal?, hs, if_neg Bool.false_ne_true] at h
    split at hf
    case h_1    => cases hf
    case h_2    => exact ⟨_, (Except.error.inj hf).symm⟩
    case h_3 hc => simp [hc] at h

theorem parse_of_refusal? (hn : encodingName? bytes = some name) (h : refusal? name = some reason) :
    parse bytes = .error (.unreadable reason (String.ofList name)) := by
  unfold encodingName? at hn
  split at hn
  case h_1               => cases hn
  case h_2 encoding mark hd =>
    dsimp only at hn
    split at hn
    case h_2              => cases hn
    case h_1 body rest hm =>
      obtain ⟨d, hb, he⟩ := Option.bind_eq_some_iff.mp hn
      unfold parse
      rw [hd]
      simp only [malformed, ok_bind, hm, hb, he, named_of_refusal? h]
      rfl

theorem onlyMalformed_parse (h : ∀ name ∈ encodingName? bytes, refusal? name = none) : OnlyMalformed (parse bytes) := by
  unfold encodingName? at h
  refine (onlyMalformed_malformed _).bind fun (encoding, mark) hd => ?_
  rw [ok_of_malformed hd] at h
  dsimp only at h
  refine (onlyMalformed_malformed _).bind fun (m, rest) hm => ?_
  rw [ok_of_malformed hm] at h
  dsimp only at h ⊢
  cases m
  case declaration body =>
    dsimp only at h ⊢
    cases hb : declaration? body
    case none   => exact onlyMalformed_error _
    case some d =>
      dsimp only
      cases he : d.encoding
      case none      => exact onlyMalformed_malformed _
      case some name =>
        have hr : refusal? name = none := h name (Option.bind_eq_some_iff.mpr ⟨d, hb, he⟩)
        exact (onlyMalformed_named hr).bind fun _ _ => onlyMalformed_malformed _
  all_goals exact onlyMalformed_malformed _

end TypedResources.Xml
