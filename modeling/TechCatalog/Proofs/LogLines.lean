import TechCatalog.Log.Line
import TechCatalog.Proofs.WrittenDocuments

/-!
# Log lines read back

Names and messages come from anywhere, and a line of the log is still one line: it is written in
printable ASCII, whatever the texts are. Read as a document, it has the members that every line has,
the structured fields that were attached and no others, and the report where there is one, each with
the value it was given. So no text can pass for another line or for another member.
-/

namespace TechCatalog.Log

variable {l : Line} {r : Json.Reader}

/-- The keys that every line has. -/
def fixedKeys : List String :=
  ["timestamp", "level", "logger", "message", "service"]

/-- The keys of a line: those of every line, the structured fields that are attached, and one for
the report. -/
def Line.keys (l : Line) : List String :=
  fixedKeys ++ structuredFields.filter (fun name => (Json.Members.get? name l.extra).isSome) ++
    if l.report.isSome then ["exc_info"] else []

/-- What is attached to a line and shown in it can be written as part of a document that the reader
goes deep enough for. -/
def Line.IsWritable (r : Json.Reader) (l : Line) : Prop :=
  ∀ name ∈ "service" :: structuredFields, ∀ v ∈ Json.Members.get? name l.extra,
    Json.Storable (r.nesting - 1) v

/-- The members that every line has. The name of the service can be attached, too. -/
def Line.fixed (l : Line) : Json.Members :=
  [("timestamp", .str l.timestamp), ("level", .str (levelName l.level)), ("logger", .str l.logger),
    ("message", .str l.message),
    ("service", (Json.Members.get? "service" l.extra).getD (.str serviceName))]

/-- Members say what a line is made of, all of it and nothing else. -/
structure Line.SaidBy (l : Line) (members : Json.Members) : Prop where
  keys : members.map (·.1) = l.keys
  timestamp : Json.Members.get? "timestamp" members = some (.str l.timestamp)
  level : Json.Members.get? "level" members = some (.str (levelName l.level))
  logger : Json.Members.get? "logger" members = some (.str l.logger)
  message : Json.Members.get? "message" members = some (.str l.message)
  service : Json.Members.get? "service" members =
    some ((Json.Members.get? "service" l.extra).getD (.str serviceName))
  structured : ∀ name ∈ structuredFields,
    Json.Members.get? name members = Json.Members.get? name l.extra
  report : Json.Members.get? "exc_info" members = l.report.map .str

theorem mem_structured_iff {name : String} {v : Json} {extra : Json.Members} :
    (name, v) ∈ structured extra ↔
      name ∈ structuredFields ∧ Json.Members.get? name extra = some v := by
  simp only [structured, List.mem_filterMap, Option.map_eq_some_iff, Prod.mk.injEq]
  constructor
  · rintro ⟨name, hname, v, hv, rfl, rfl⟩
    exact ⟨hname, hv⟩
  · rintro ⟨hname, hv⟩
    exact ⟨name, hname, v, hv, rfl, rfl⟩

theorem keys_filterMap (names : List String) (value? : String → Option Json) :
    (names.filterMap fun name => (value? name).map fun v => (name, v)).map (·.1) =
      names.filter fun name => (value? name).isSome := by
  induction names with
  | nil => rfl
  | cons name names ih =>
    cases hv : value? name with
    | none => simp [hv, ih]
    | some v => simp [hv, ih]

theorem Line.keys_members (l : Line) : l.members.map (·.1) = l.keys := by
  have hstructured := keys_filterMap structuredFields fun name => Json.Members.get? name l.extra
  rw [Line.members, Line.keys, List.map_append, List.map_append, structured, hstructured]
  cases l.report <;> rfl

theorem Line.nodup_keys (l : Line) : l.keys.Nodup := by
  have hall : (fixedKeys ++ structuredFields ++ ["exc_info"]).Nodup := by decide
  have hreport : (if l.report.isSome then ["exc_info"] else []).Sublist ["exc_info"] := by
    split
    · exact .refl _
    · exact List.nil_sublist _
  exact hall.sublist (((List.Sublist.refl _).append List.filter_sublist).append hreport)

theorem Line.get?_members_iff {name : String} {v : Json} :
    Json.Members.get? name l.members = some v ↔ (name, v) ∈ l.members :=
  Json.Members.get?_eq_some_iff (l.keys_members ▸ l.nodup_keys)

/-- The members of a line by their keys. -/
theorem Line.mem_members_iff {name : String} {v : Json} : (name, v) ∈ l.members ↔
    (name, v) ∈ l.fixed ∨ (name, v) ∈ structured l.extra ∨
      name = "exc_info" ∧ l.report.map .str = some v := by
  rw [members, List.append_assoc, List.mem_append, List.mem_append]
  refine or_congr Iff.rfl (or_congr Iff.rfl ?_)
  cases l.report with
  | none => simp
  | some text => simp [eq_comm]

theorem Line.fixedKeys_of_mem {name : String} {v : Json} (h : (name, v) ∈ l.fixed) :
    name ∈ fixedKeys :=
  List.mem_map_of_mem (f := (·.1)) h

theorem Line.saidBy_members (l : Line) : l.SaidBy l.members := by
  have hfixed : ∀ m ∈ l.fixed, Json.Members.get? m.1 l.members = some m.2 :=
    fun m hm => get?_members_iff.mpr (mem_members_iff.mpr (.inl hm))
  have hdisjoint : "exc_info" ∉ structuredFields ∧ "exc_info" ∉ fixedKeys ∧
      ∀ name ∈ structuredFields, name ∉ fixedKeys ∧ name ≠ "exc_info" := by decide
  simp only [fixed, List.forall_mem_cons] at hfixed
  obtain ⟨htimestamp, hlevel, hlogger, hmessage, hservice, -⟩ := hfixed
  refine ⟨l.keys_members, htimestamp, hlevel, hlogger, hmessage, hservice, fun name hname => ?_, ?_⟩
  · refine Option.ext fun v => ?_
    obtain ⟨hother, hne⟩ := hdisjoint.2.2 name hname
    have hnot : (name, v) ∉ l.fixed := fun h => hother (fixedKeys_of_mem h)
    simp [get?_members_iff, mem_members_iff, mem_structured_iff, hnot, hne, hname]
  · refine Option.ext fun v => ?_
    have hnot : ("exc_info", v) ∉ l.fixed := fun h => hdisjoint.2.1 (fixedKeys_of_mem h)
    simp [get?_members_iff, mem_members_iff, mem_structured_iff, hnot, hdisjoint.1]

/-- What a line is made of can be stored if what is attached to it can. -/
theorem Line.IsWritable.storable (hr : 0 < r.nesting) (h : l.IsWritable r) :
    Json.Storable r.nesting (.obj l.members) := by
  obtain ⟨depth, hdepth⟩ : ∃ depth, r.nesting = depth + 1 := Nat.exists_eq_add_one.mpr hr
  rw [Line.IsWritable, hdepth, Nat.add_sub_cancel] at h
  rw [hdepth]
  have hservice : Json.Storable depth
      ((Json.Members.get? "service" l.extra).getD (.str serviceName)) := by
    cases hv : Json.Members.get? "service" l.extra with
    | none => exact .str _ _
    | some v => exact h "service" List.mem_cons_self v hv
  refine .obj (l.keys_members ▸ l.nodup_keys) ?_
  rintro ⟨name, v⟩ hm
  obtain hfixed | hstructured | ⟨-, hreport⟩ := mem_members_iff.mp hm
  · have hall : ∀ m ∈ l.fixed, Json.Storable depth m.2 := by
      simp only [fixed, List.forall_mem_cons]
      exact ⟨.str _ _, .str _ _, .str _ _, .str _ _, hservice, List.forall_mem_nil _⟩
    exact hall (name, v) hfixed
  · obtain ⟨hname, hv⟩ := mem_structured_iff.mp hstructured
    exact h name (List.mem_cons_of_mem _ hname) v hv
  · obtain ⟨text, -, rfl⟩ := Option.map_eq_some_iff.mp hreport
    exact .str _ _

theorem isWritable_of_extra (h : ∀ m ∈ l.extra, Json.Storable (r.nesting - 1) m.2) :
    l.IsWritable r := by
  intro name _ v hv
  exact h (name, v) (Json.Members.mem_of_get? hv)

/-- Whatever the texts of a line are, it is written as one line of printable ASCII, and a reader of
this line is told what the line is made of, all of it and nothing else. -/
theorem line_read_back (hr : 0 < r.nesting) (h : l.IsWritable r) :
    (∀ c ∈ l.write.toList, Json.IsVisible c) ∧
    ∃ members, Json.read r l.write = .ok (.obj members) ∧ l.SaidBy members := by
  have hread : Json.read r l.write = .ok (.obj l.members) :=
    Json.read_write (Json.spaced_isReadable true) (h.storable hr)
  refine ⟨?_, l.members, hread, l.saidBy_members⟩
  rw [Line.write, Json.write, String.toList_ofList]
  exact Json.isVisible_writeChars Json.spaced_isPrintable (h.storable hr)

/-- A line whose texts try to end it and to begin another one. -/
def hostileLine : Line where
  timestamp := "2024-01-01T00:00:00+00:00"
  level := 30
  logger := "a\nb"
  message := "\"\x7d\n\x7b\"level\": \"ERROR\"\x7d 😀"
  extra := [("phase", .null), ("message", .str "another"), ("request_id", .str "\x00\"𝄞"),
    ("total_count", .int (-7))]
  report := some "Traceback (most recent call last):\nValueError: boom"

theorem line_read_back_hostile : '\n' ∉ hostileLine.write.toList ∧
    ∃ members, Json.read {} hostileLine.write = .ok (.obj members) ∧
      members.map (·.1) = fixedKeys ++ ["request_id", "phase", "total_count", "exc_info"] ∧
      Json.Members.get? "message" members = some (.str hostileLine.message) := by
  have hwritable : hostileLine.IsWritable {} := by
    apply isWritable_of_extra
    simp only [hostileLine, List.forall_mem_cons]
    exact ⟨.null _, .str _ _, .str _ _, .int _ (by decide), List.forall_mem_nil _⟩
  obtain ⟨hvisible, members, hread, hsaid⟩ := line_read_back (by decide) hwritable
  refine ⟨fun hline => ?_, members, hread, hsaid.keys, hsaid.message⟩
  exact absurd (hvisible '\n' hline) (by decide)

end TechCatalog.Log
