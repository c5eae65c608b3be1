import Mathlib.Data.List.Basic
import Std.Data.String.ToInt
import TypedResources.Proofs.Number.Numeral
import TypedResources.Proofs.Text.Markup
import TypedResources.Report

-- What the report says. Its tags are those of the template, and so are all angle brackets and quotes in
-- it; between the tags each field stands escaped, up to the next tag, so that all of the changes can be
-- read back from the page (`render_faithful`).

namespace TypedResources.Report

open Text (Plain SameTags)

variable {date : String} {f f' : FileChanges} {files files' : List FileChanges} {c c' : Change}
  {changes changes' : List Change} {s t u v : List Char}

theorem plain_escape (s : String) : Plain (escape s).toList := by
  rw [escape, String.toList_ofList]
  exact Text.plain_escapeMarkup _

theorem escape_injective : Function.Injective escape := by
  intro s t h
  exact String.toList_inj.mp (Text.escapeMarkup_injective (String.ofList_injective h))

theorem plain_of_isDigit (h : ∀ c ∈ s, c.isDigit) : Plain s := by
  intro c hc
  have ⟨h₁, h₂⟩ := Numeral.toNat_of_isDigit (h c hc)
  simp only [Text.isMarkup, Bool.or_eq_false_iff, decide_eq_false_iff_not]
  refine ⟨⟨⟨?_, ?_⟩, ?_⟩, ?_⟩ <;> rintro rfl <;> simp at h₁ h₂

theorem space_not_mem_natural (n : Nat) : ' ' ∉ (toString n).toList := by
  rw [Nat.toString_eq_ofList_toDigits, String.toList_ofList]
  exact fun h => absurd (Numeral.isDigit_of_mem_decimal h) (by decide)

theorem plain_natural (n : Nat) : Plain (toString n).toList := by
  rw [Nat.toString_eq_ofList_toDigits, String.toList_ofList]
  exact plain_of_isDigit fun _ => Numeral.isDigit_of_mem_decimal

theorem plain_integer (n : Int) : Plain (toString n).toList := by
  cases n
  case ofNat n   => exact plain_natural n
  case negSucc n =>
    show Plain ("-" ++ toString (n + 1)).toList
    rw [String.toList_append]
    exact List.forall_mem_append.mpr ⟨by simp [Text.isMarkup], plain_natural (n + 1)⟩

-- As many changes, of which nothing is told.
def blank (f : FileChanges) : FileChanges :=
  ⟨"", "", f.changes.map fun _ => ⟨0, "", ""⟩⟩

theorem sameTags_row : SameTags (row c).toList (row c').toList := by
  have hline := SameTags.of_plain (plain_integer c.line) (plain_integer c'.line)
  have hbefore := SameTags.of_plain (plain_escape c.before) (plain_escape c'.before)
  have hafter := SameTags.of_plain (plain_escape c.after) (plain_escape c'.after)
  unfold row
  simp only [String.toList_append, List.append_assoc]
  refine .append ?_ <| .append ?_ <| .append hline <| .append ?_ <| .append ?_ <| .append hbefore <|
    .append ?_ <| .append ?_ <| .append hafter <| .append ?_ ?_
  all_goals exact .literal rfl (by decide)

set_option maxRecDepth 2000 in
theorem sameTags_fileHead : SameTags (fileHead f).toList (fileHead f').toList := by
  have hname := SameTags.of_plain (plain_escape f.name) (plain_escape f'.name)
  have hpath := SameTags.of_plain (plain_escape f.path) (plain_escape f'.path)
  unfold fileHead
  simp only [String.toList_append, List.append_assoc]
  refine .append ?_ <| .append ?_ <| .append hname <| .append ?_ <| .append ?_ <| .append hpath <|
    .append ?_ <| .append ?_ <| .append ?_ <| .append ?_ <| .append ?_ <| .append ?_ ?_
  all_goals exact .literal rfl (by decide)

theorem sameTags_summary : SameTags (summary date files).toList (summary date files').toList := by
  have hdate := SameTags.of_plain (plain_escape date) (plain_escape date)
  have hfiles := SameTags.of_plain (plain_natural files.length) (plain_natural files'.length)
  have htotal := SameTags.of_plain (plain_natural (totalChanges files)) (plain_natural (totalChanges files'))
  unfold summary
  simp only [String.toList_append, List.append_assoc]
  refine .append ?_ <| .append hdate <| .append ?_ <| .append ?_ <| .append hfiles <| .append ?_ <|
    .append htotal ?_
  all_goals exact .literal rfl (by decide)

theorem sameTags_join {α : Type} {g g' : α → String} {l : List α} (h : ∀ a, SameTags (g a).toList (g' a).toList) :
    SameTags (String.join (l.map g)).toList (String.join (l.map g')).toList := by
  induction l
  case nil         => exact .literal rfl (by decide)
  case cons a l ih =>
    simp only [List.map_cons, String.join_cons, String.toList_append]
    exact (h a).append ih

theorem sameTags_blank : SameTags (fileSection f).toList (fileSection (blank f)).toList := by
  have hrows : SameTags (String.join (f.changes.map row)).toList (String.join ((blank f).changes.map row)).toList := by
    rw [blank, List.map_map]
    exact sameTags_join fun _ => sameTags_row
  unfold fileSection
  simp only [String.toList_append, List.append_assoc]
  exact .append sameTags_fileHead <| .append hrows <| .literal rfl (by decide)

-- The head of the page is one literal of more than a thousand characters.
set_option maxRecDepth 8000 in
theorem sameTags_pageHead : SameTags pageHead.toList pageHead.toList :=
  .literal rfl (by decide +kernel)

theorem sameTags_render (date : String) (files : List FileChanges) :
    SameTags (render date files).toList (render date (files.map blank)).toList := by
  have hsections : SameTags (String.join (files.map fileSection)).toList
      (String.join ((files.map blank).map fileSection)).toList := by
    rw [List.map_map]
    exact sameTags_join fun _ => sameTags_blank
  unfold render
  simp only [String.toList_append, List.append_assoc]
  exact .append sameTags_pageHead <| .append sameTags_summary <| .append hsections <| .literal rfl (by decide)

-- A field ends where the literal behind it begins.
theorem field_inj {c : Char} {r : List Char} {w : String} (hs : c ∉ s) (ht : c ∉ t)
    (h : s ++ (w.toList ++ u) = t ++ (w.toList ++ v)) (hw : w = String.ofList (c :: r)) : s = t ∧ u = v := by
  rw [hw, String.toList_ofList, List.cons_append, List.cons_append] at h
  have ⟨he, hr⟩ := Text.eq_of_first hs ht h
  exact ⟨he, List.append_cancel_left hr⟩

theorem escape_inj {s t w : String} {r : List Char} (h : (escape s).toList ++ (w.toList ++ u) =
    (escape t).toList ++ (w.toList ++ v)) (hw : w = String.ofList ('<' :: r)) : s = t ∧ u = v := by
  have ⟨he, h⟩ := field_inj (plain_escape s).not_mem (plain_escape t).not_mem h hw
  exact ⟨escape_injective (String.toList_inj.mp he), h⟩

-- Of two literals that begin differently, one does not stand where the other does.
theorem literal_ne {w w' : String} (hw : w = String.ofList s) (hw' : w' = String.ofList t)
    (h : ¬s <+: t ∧ ¬t <+: s) : w.toList ++ u ≠ w'.toList ++ v := by
  rw [hw, hw', String.toList_ofList, String.toList_ofList]
  intro he
  rcases List.prefix_or_prefix_of_prefix (List.prefix_append s u) (he ▸ List.prefix_append t v) with hp | hp
  · exact h.left hp
  · exact h.right hp

theorem row_inj (h : (row c).toList ++ u = (row c').toList ++ v) : c = c' ∧ u = v := by
  unfold row at h
  simp only [String.toList_append, List.append_assoc] at h
  have h := List.append_cancel_left (List.append_cancel_left h)
  have ⟨hline, h⟩ := field_inj (plain_integer _).not_mem (plain_integer _).not_mem h rfl
  have ⟨hbefore, h⟩ := escape_inj (List.append_cancel_left h) rfl
  have ⟨hafter, h⟩ := escape_inj (List.append_cancel_left h) rfl
  refine ⟨?_, List.append_cancel_left h⟩
  cases c
  cases c'
  congr
  exact Int.repr_injective (String.toList_inj.mp hline)

-- The end of a table is indented less than a row of it.
theorem row_ne_tableEnd : "        </table>\n    </div>\n".toList ++ u ≠ (row c).toList ++ v := by
  unfold row
  simp only [String.toList_append, List.append_assoc]
  exact literal_ne rfl rfl (by decide)

theorem rows_inj (h : (String.join (changes.map row)).toList ++ ("        </table>\n    </div>\n".toList ++ u) =
    (String.join (changes'.map row)).toList ++ ("        </table>\n    </div>\n".toList ++ v)) :
    changes = changes' ∧ u = v := by
  induction changes generalizing changes' <;> cases changes' <;>
    simp only [List.map_nil, List.map_cons, String.join_nil, String.join_cons, String.toList_append,
      List.append_assoc] at h
  case nil.nil             => exact ⟨rfl, List.append_cancel_left (List.append_cancel_left h)⟩
  case nil.cons            => exact absurd h row_ne_tableEnd
  case cons.nil            => exact absurd h.symm row_ne_tableEnd
  case cons.cons c l ih c' l' =>
    have ⟨hc, h⟩ := row_inj h
    have ⟨hl, h⟩ := ih h
    exact ⟨congrArg₂ List.cons hc hl, h⟩

theorem fileHead_inj (h : (fileHead f).toList ++ u = (fileHead f').toList ++ v) :
    f.name = f'.name ∧ f.path = f'.path ∧ u = v := by
  unfold fileHead at h
  simp only [String.toList_append, List.append_assoc] at h
  have ⟨hname, h⟩ := escape_inj (List.append_cancel_left (List.append_cancel_left h)) rfl
  have ⟨hpath, h⟩ := escape_inj (List.append_cancel_left h) rfl
  refine ⟨hname, hpath, ?_⟩
  iterate 6 replace h := List.append_cancel_left h
  exact h

theorem fileSection_inj (h : (fileSection f).toList ++ u = (fileSection f').toList ++ v) : f = f' ∧ u = v := by
  unfold fileSection at h
  simp only [String.toList_append, List.append_assoc] at h
  have ⟨hname, hpath, h⟩ := fileHead_inj h
  have ⟨hchanges, h⟩ := rows_inj h
  refine ⟨?_, h⟩
  cases f
  cases f'
  congr

-- The end of the page is not indented, while all sections are.
theorem fileSection_ne_pageEnd : "</body>\n</html>\n".toList ++ u ≠ (fileSection f).toList ++ v := by
  unfold fileSection fileHead
  simp only [String.toList_append, List.append_assoc]
  exact literal_ne rfl rfl (by decide)

theorem sections_inj (h : (String.join (files.map fileSection)).toList ++ "</body>\n</html>\n".toList =
    (String.join (files'.map fileSection)).toList ++ "</body>\n</html>\n".toList) : files = files' := by
  induction files generalizing files' <;> cases files' <;>
    simp only [List.map_nil, List.map_cons, String.join_nil, String.join_cons, String.toList_append,
      List.append_assoc] at h
  case nil.nil             => rfl
  case nil.cons            => exact absurd h fileSection_ne_pageEnd
  case cons.nil            => exact absurd h.symm fileSection_ne_pageEnd
  case cons.cons f l ih f' l' =>
    have ⟨hf, h⟩ := fileSection_inj h
    exact congrArg₂ List.cons hf (ih h)

theorem summary_inj (h : (summary date files).toList ++ u = (summary date files').toList ++ v) : u = v := by
  unfold summary at h
  simp only [String.toList_append, List.append_assoc] at h
  iterate 4 replace h := List.append_cancel_left h
  have ⟨_, h⟩ := field_inj (space_not_mem_natural _) (space_not_mem_natural _) h rfl
  have ⟨_, h⟩ := field_inj (space_not_mem_natural _) (space_not_mem_natural _) h rfl
  exact h

theorem render_injective (date : String) : Function.Injective (render date) := by
  intro files files' h
  have h := congrArg String.toList h
  unfold render at h
  simp only [String.toList_append, List.append_assoc] at h
  exact sections_inj (summary_inj (List.append_cancel_left h))

theorem render_faithful (date : String) :
    (∀ files files', render date files = render date files' ↔ files = files') ∧
    ∀ files, Text.tagsOf (render date files).toList = Text.tagsOf (render date (files.map blank)).toList ∧
      ∀ c ∈ Text.textOf (render date files).toList, Text.isMarkup c = false := by
  refine ⟨fun _ _ => (render_injective date).eq_iff, fun files => ?_⟩
  have h := sameTags_render date files
  exact ⟨h.tags, h.plain.left⟩

end TypedResources.Report
