import TypedResources.Cache
import TypedResources.Clock
import TypedResources.Proofs.Action
import TypedResources.Proofs.Disk.Writes
import TypedResources.Proofs.Json

-- What a cache gives back. A record is read as the time that was written into it (`recorded?_record`),
-- and while the files of a cache stay as they were stored (`Holds`), whatever else is written, it
-- holds that time and that class.

namespace TypedResources.Cache

variable {c c' : Cache} {d d' : Disk} {s s' : Session} {time time' : Int} {n : Nat} {stamp content : String}
  {text : List Char} {keys : List Key} {files : List Path} {p : Path}

open Json (keyed scanItems scanEntry scanValue endsNumber_cons)

def IsStamp (stamp : String) : Prop :=
  stamp.toList.all Json.isPlain

theorem isPlain_of_isDigit {c : Char} (h : c.isDigit) : Json.isPlain c := by
  have ⟨h₁, _⟩ := Numeral.toNat_of_isDigit h
  have hq : c ≠ '"' := by rintro rfl; contradiction
  have hb : c ≠ '\\' := by rintro rfl; contradiction
  simp only [Json.isPlain, Bool.and_eq_true, decide_eq_true_eq]
  exact ⟨⟨hq, hb⟩, by omega⟩

theorem IsStamp.append {stamp' : String} (h : IsStamp stamp) (h' : IsStamp stamp') :
    IsStamp (stamp ++ stamp') := by
  rw [IsStamp, String.toList_append, List.all_append, h, h']
  rfl

theorem isStamp_padded {width : Nat} : IsStamp (Clock.padded width n) := by
  rw [IsStamp, Clock.padded, String.toList_ofList, List.all_eq_true]
  intro c hc
  rcases List.mem_append.mp hc with hc | hc
  case inl => rw [List.eq_of_mem_replicate hc]; decide
  case inr => exact isPlain_of_isDigit (Numeral.isDigit_of_mem_decimal hc)

theorem isStamp_session : IsStamp (Clock.session d time).stamp := by
  have hl (c : Char) (h : Json.isPlain c) : IsStamp (String.singleton c) := by
    simpa [IsStamp] using h
  have hd (t : Moment) : IsStamp (Clock.dateText t) :=
    isStamp_padded.append (hl '-' (by decide)) |>.append isStamp_padded |>.append (hl '-' (by decide))
      |>.append isStamp_padded
  have ht (t : Moment) : IsStamp (Clock.timeText t) :=
    isStamp_padded.append (hl ':' (by decide)) |>.append isStamp_padded |>.append (hl ':' (by decide))
      |>.append isStamp_padded
  exact (hd _).append (hl 'T' (by decide)) |>.append (ht _) |>.append (hl '.' (by decide))
    |>.append isStamp_padded |>.append (hl 'Z' (by decide))

theorem toList_toString (n : Nat) : (toString (n : Int)).toList = Nat.toDigits 10 n := by
  rw [← Nat.toList_repr]
  rfl

-- What is between the braces of a record, from the first entry on, and the closing brace.
def body (n : Nat) (stamp : String) : List Char :=
  keyed "most_recent_input_timestamp" (Nat.toDigits 10 n ++ ',' :: '\n' :: ' ' :: ' ' ::
  keyed "updated_at" ('"' :: (stamp.toList ++ '"' :: ',' :: '\n' :: ' ' :: ' ' ::
  keyed "version" (Nat.toDigits 10 1 ++ ['\n', '}']))))

def entries (n : Nat) (stamp : String) : List (String × Json.Value) :=
  [("most_recent_input_timestamp", .integer n), ("updated_at", .text stamp), ("version", .integer 1)]

theorem toList_record : (record n stamp).toList = '{' :: '\n' :: ' ' :: ' ' :: body n stamp := by
  have hv : (toString version).toList = Nat.toDigits 10 1 := rfl
  simp only [record, body, keyed, String.toList_append, toList_toString, hv, List.append_assoc]
  rfl

theorem scanItems_body {fuel k : Nat} (hs : IsStamp stamp) (hn : n < Numeral.integerLimit) :
    scanItems '}' (scanEntry (scanValue (fuel + 1))) (k + 3) (body n stamp) = .ok (entries n stamp, []) := by
  have h₁ : 1 < Numeral.integerLimit := Numeral.length_toDigits_le_iff.mp (by decide)
  refine Json.scanItems_more (Json.scanEntry_number (by decide) (endsNumber_cons (by decide)) hn) ?_
  refine Json.scanItems_more (Json.scanEntry_text (by decide) hs) ?_
  exact Json.scanItems_last (Json.scanEntry_number (by decide) (endsNumber_cons (by decide)) h₁) rfl

theorem read_record (hs : IsStamp stamp) (hn : n < Numeral.integerLimit) :
    Json.read (record n stamp).toList = .ok (.object (entries n stamp)) := by
  have ⟨k, hk⟩ : ∃ k, (body n stamp).length + 1 = k + 3 :=
    ⟨(body n stamp).length - 2, by simp only [body, keyed, List.length_cons, List.length_append]; omega⟩
  have hb {fuel : Nat} : scanValue (fuel + 2) ('{' :: '\n' :: ' ' :: ' ' :: body n stamp) =
      .ok (.object (entries n stamp), []) :=
    Json.scanValue_object rfl (hk ▸ scanItems_body hs hn)
  rw [Json.read, toList_record, Json.skipSpace_of_not_isSpace (by decide), List.length_cons, hb]
  rfl

theorem recorded?_record (hs : IsStamp stamp) (hn : n < Numeral.integerLimit) :
    recorded? (record n stamp).toList = .ok (some (n : Int)) := by
  rw [recorded?, read_record hs hn, toList_record, if_neg (by simp)]
  rfl

theorem not_mem_record (hs : IsStamp stamp) : '\r' ∉ (record n stamp).toList := by
  have hd {n : Nat} : '\r' ∉ Nat.toDigits 10 n := fun h => absurd (Numeral.isDigit_of_mem_decimal h) (by decide)
  have hp : '\r' ∉ stamp.toList := fun h => absurd (List.all_eq_true.mp hs '\r' h) (by decide)
  have h₁ : '\r' ∉ "most_recent_input_timestamp".toList := by decide
  have h₂ : '\r' ∉ "updated_at".toList := by decide
  have h₃ : '\r' ∉ "version".toList := by decide
  simp only [toList_record, body, keyed, List.mem_cons, List.mem_append, hd, hp, h₁, h₂, h₃]
  decide

-- The maximum of zero and the times of the files that exist.
structure IsNewest (d : Disk) (files : List Path) (time : Int) : Prop where
  nonneg   : 0 ≤ time
  le       : ∀ p ∈ files, ∀ content t, d.stat p = .ok (.file content t) → t ≤ time
  attained : time = 0 ∨ ∃ p ∈ files, ∃ content, d.stat p = .ok (.file content time)

theorem modified?_eq_some_iff : modified? d p = .ok (some time) ↔ ∃ content, d.stat p = .ok (.file content time) := by
  unfold modified?
  rcases d.stat p with f | ⟨content, t⟩ | _
  case error   => cases f <;> simp
  case ok.file => simp
  case ok.dir  => simp

theorem mem_times_iff : time ∈ (files.filterMap fun p => (modified? d p).toOption).filterMap id ↔
    ∃ p ∈ files, ∃ content, d.stat p = .ok (.file content time) := by
  have hm (p : Path) : (modified? d p).toOption = some (some time) ↔ modified? d p = .ok (some time) := by
    cases modified? d p <;> simp [Except.toOption]
  simp [List.mem_filterMap, hm, modified?_eq_some_iff]

theorem modified?_returns_iff :
    (∃ found, modified? d p = .ok found) ↔ ∀ f, d.stat p = .error f → f = .notFound := by
  unfold modified?
  rcases d.stat p with f | ⟨content, time⟩ | _
  case error   => cases f <;> simp
  case ok.file => simp
  case ok.dir  => simp

-- There is a newest time if each path leads somewhere or to nothing.
theorem exists_newest_iff : (∃ time, newest d files = .ok time) ↔
    ∀ p ∈ files, ∀ f, d.stat p = .error f → f = .notFound := by
  have hm : (∃ times, files.mapM (modified? d) = .ok times) ↔ ∃ time, newest d files = .ok time := by
    rw [newest]
    cases files.mapM (modified? d) <;> simp
  rw [← hm]
  simp [mapM_eq_ok_iff, modified?_returns_iff]

theorem newest_eq_ok_iff : newest d files = .ok time ↔
    (∀ p ∈ files, ∀ f, d.stat p = .error f → f = .notFound) ∧ IsNewest d files time := by
  have hn : newest d files = .ok time ↔ ∃ times, files.mapM (modified? d) = .ok times ∧
      (0 :: times.filterMap id).max (List.cons_ne_nil _ _) = time := by
    rw [newest]
    cases files.mapM (modified? d) <;> simp [List.max]
  rw [hn]
  simp only [mapM_eq_ok_iff, modified?_returns_iff, List.max_eq_iff, and_assoc, exists_and_left, exists_eq_left,
    List.mem_cons, mem_times_iff, forall_eq_or_imp]
  refine and_congr_right fun _ => ?_
  constructor
  case mp  => exact fun ⟨ha, h0, hl⟩ => ⟨h0, fun p hp content t hs => hl t ⟨p, hp, content, hs⟩, ha⟩
  case mpr => exact fun h => ⟨h.attained, h.nonneg, fun t ⟨p, hp, content, hs⟩ => h.le p hp content t hs⟩

-- The files of a cache are what was stored in it: a class, and the time it was stored with.
structure Holds (c : Cache) (d : Disk) (text : List Char) (time : Int) : Prop where
  nonneg  : 0 ≤ time
  dir     : d.isDir c.dir
  content : d.readBytes c.contentFile = .ok (Text.Utf8.encode text)
  record  : ∃ stamp, IsStamp stamp ∧ d.readBytes c.recordFile = .ok (Text.Utf8.encode (record time stamp).toList)

theorem keyOf_contentFile : d.keyOf c.contentFile = d.keyOf c.dir ++ ["content.kt"] :=
  Disk.keyOf_child (by decide)

theorem keyOf_recordFile : d.keyOf c.recordFile = d.keyOf c.dir ++ ["timestamp.json"] :=
  Disk.keyOf_child (by decide)

theorem keyOf_contentFile_ne : d.keyOf c.contentFile ≠ d.keyOf c.recordFile := by
  rw [keyOf_contentFile, keyOf_recordFile]
  simp

theorem contentFile_congr (h : c'.dir = c.dir) : c'.contentFile = c.contentFile := by
  rw [contentFile, h, contentFile]

theorem Holds.of_dir (h : c.Holds d text time) (hd : c'.dir = c.dir) : c'.Holds d text time where
  nonneg  := h.nonneg
  dir     := hd ▸ h.dir
  content := contentFile_congr hd ▸ h.content
  record  := by rw [recordFile, hd]; exact h.record

theorem Holds.of_writes (h : c.Holds d text time) (hw : Disk.Writes keys d d')
    (hc : d'.readBytes c.contentFile = .ok (Text.Utf8.encode text)) (hr : d.keyOf c.recordFile ∉ keys) :
    c.Holds d' text time where
  nonneg  := h.nonneg
  dir     := hw.isDir h.dir
  content := hc
  record  :=
    have ⟨stamp, hs, h⟩ := h.record
    ⟨stamp, hs, hw.readBytes hr h⟩

-- What storing comes to: the time is found, the directory made, and the two files are written.
theorem outcome_put : (c.put content).outcome s =
    match newest s.disk c.observed with
    | .error f => (.error f, s)
    | .ok time =>
      match s.disk.makeDirs c.dir with
      | .error (f, p) => (.error (.disk f p), s)
      | .ok d         =>
        match d.writeBytes c.contentFile (Text.Utf8.encode content.toList) s.time with
        | .error f => (.error (.disk f c.contentFile), { s with disk := d })
        | .ok d₁   =>
          match d₁.writeBytes c.recordFile (Text.Utf8.encode (record time s.stamp).toList) s.time with
          | .error f => (.error (.disk f c.recordFile), { s with disk := d₁ })
          | .ok d₂   => (.ok time, { s with
              disk := d₂
              log  := s.log ++ [⟨.debug, .cache, "Cached generated content at " ++ c.dir.toString⟩] }) := by
  rw [put, Action.outcome_bind_of_ok Action.outcome_disk, Action.outcome_bind, Action.outcome_ofExcept]
  cases newest s.disk c.observed
  case error   => rfl
  case ok time =>
    dsimp only
    rw [Action.outcome_bind, Action.outcome_makeDirs]
    rcases s.disk.makeDirs c.dir with ⟨f, p⟩ | d
    case error => rfl
    case ok    =>
      dsimp only
      rw [Action.outcome_bind, Action.outcome_writeText]
      dsimp only
      cases d.writeBytes c.contentFile (Text.Utf8.encode content.toList) s.time
      case error => rfl
      case ok d₁ =>
        dsimp only
        rw [Action.outcome_bind_of_ok Action.outcome_getThe, Action.outcome_bind, Action.outcome_writeText]
        dsimp only
        cases d₁.writeBytes c.recordFile (Text.Utf8.encode (record time s.stamp).toList) s.time <;> rfl

theorem put_eq_ok_iff : (c.put content).outcome s = (.ok time, s') ↔
    newest s.disk c.observed = .ok time ∧ ∃ d d₁ d₂, s.disk.makeDirs c.dir = .ok d ∧
      d.writeBytes c.contentFile (Text.Utf8.encode content.toList) s.time = .ok d₁ ∧
      d₁.writeBytes c.recordFile (Text.Utf8.encode (record time s.stamp).toList) s.time = .ok d₂ ∧
      s' = { s with
        disk := d₂
        log  := s.log ++ [⟨.debug, .cache, "Cached generated content at " ++ c.dir.toString⟩] } := by
  rw [outcome_put]
  constructor
  case mpr =>
    rintro ⟨ht, d, d₁, d₂, hm, hc, hr, rfl⟩
    simp only [ht, hm, hc, hr]
  case mp  =>
    intro h
    split at h
    case h_1         => cases h
    case h_2 time ht =>
      split at h
      case h_1      => cases h
      case h_2 d hm =>
        split at h
        case h_1       => cases h
        case h_2 d₁ hc =>
          split at h
          case h_1       => cases h
          case h_2 d₂ hr => cases h; exact ⟨ht, d, d₁, d₂, hm, hc, hr, rfl⟩

-- Whatever the session's stamp is, the class is there.
theorem content_of_put (h : (c.put content).outcome s = (.ok time, s')) :
    s'.disk.readBytes c.contentFile = .ok (Text.Utf8.encode content.toList) := by
  have ⟨_, d, d₁, d₂, _, hc, hr, hs'⟩ := put_eq_ok_iff.mp h
  subst hs'
  exact (Disk.writeBytes_writes hr).left.readBytes (by simpa using keyOf_contentFile_ne)
    (Disk.readBytes_of_writeBytes hc)

theorem isDir_of_put {d d₁ d₂ : Disk} {bytes : Bytes} {stamp : Int} (hm : d.makeDirs c.dir = .ok d₁)
    (hc : d₁.writeBytes c.contentFile bytes stamp = .ok d₂) : d₁.isDir c.dir := by
  have hp : c.contentFile.parent = c.dir := Path.parent_child ..
  rw [← hp] at hm ⊢
  exact Disk.isDir_parent hm hc

theorem put_eq_ok (hs : IsStamp s.stamp) (h : (c.put content).outcome s = (.ok time, s')) :
    newest s.disk c.observed = .ok time ∧ c.Holds s'.disk content.toList time := by
  have hcontent := content_of_put h
  have ⟨ht, d, d₁, d₂, hm, hc, hr, hs'⟩ := put_eq_ok_iff.mp h
  subst hs'
  have hg := (Disk.writeBytes_writes hc).left.toGrows.trans (Disk.writeBytes_writes hr).left.toGrows
  exact ⟨ht, {
    nonneg  := (newest_eq_ok_iff.mp ht).right.nonneg
    dir     := hg.isDir (isDir_of_put hm hc)
    content := hcontent
    record  := ⟨s.stamp, hs, Disk.readBytes_of_writeBytes hr⟩ }⟩

-- A class can always be stored in place of another one.
theorem put_of_holds (content : String) (h : c.Holds s.disk text time')
    (ht : newest s.disk c.observed = .ok time) :
    ∃ s', (c.put content).outcome s = (.ok time, s') ∧ s.disk.Grows s'.disk := by
  have hm := Disk.makeDirs_of_isDir h.dir
  have ⟨d₁, hc⟩ := Disk.writeBytes_of_isFile (Text.Utf8.encode content.toList) s.time
    (Disk.isFile_of_readBytes h.content)
  have hg := (Disk.writeBytes_writes hc).left.toGrows
  have ⟨stamp, hs, hr⟩ := h.record
  have ⟨d₂, hr⟩ := Disk.writeBytes_of_isFile (Text.Utf8.encode (record time s.stamp).toList) s.time
    (hg.isFile (Disk.isFile_of_readBytes hr))
  exact ⟨_, put_eq_ok_iff.mpr ⟨ht, _, _, _, hm, hc, hr, rfl⟩, hg.trans (Disk.writeBytes_writes hr).left.toGrows⟩

theorem stored?_of_holds (h : c.Holds d text time) (hlt : time.natAbs < Numeral.integerLimit) :
    c.stored? d = .ok (some time) := by
  obtain ⟨n, rfl⟩ := Int.eq_ofNat_of_zero_le h.nonneg
  have ⟨stamp, hs, hr⟩ := h.record
  have hc : d.has c.contentFile := Disk.has_of_isFile (Disk.isFile_of_readBytes h.content)
  have ht : d.readText c.recordFile = .ok (record n stamp).toList := by
    rw [Disk.readText_of_readBytes hr, Disk.unifyNewlines_of_not_mem (not_mem_record hs)]
  rw [stored?, ht]
  dsimp only
  rw [recorded?_record hs (by simpa using hlt), ok_bind, Option.filter_some, if_pos hc]
  rfl

theorem isUpToDate_of_none (h : c.stored? d = .ok none) : c.isUpToDate d = .ok false := by
  rw [isUpToDate, h]
  rfl

theorem isUpToDate_of_holds (h : c.Holds d text time) (hlt : time.natAbs < Numeral.integerLimit) :
    c.isUpToDate d = (newest d c.observed).map fun time' => decide (time = time') := by
  rw [isUpToDate, stored?_of_holds h hlt, ok_bind]
  cases newest d c.observed <;> rfl

theorem content?_of_readBytes (h : d.readBytes c.contentFile = .ok (Text.Utf8.encode text)) :
    c.content? d = .ok (some (String.ofList (Text.unifyNewlines text))) := by
  rw [content?, Disk.readText_of_readBytes h]

end TypedResources.Cache
