import TechCatalog.Store.Database

/-!
# What a store lacks

A statement names tables and columns. Tables are looked for first: where some are missing, the first
of them is what the statement lacks, and a store without gaps lacks nothing.
-/

namespace TechCatalog.Store

/-- Some of these tables do not exist. -/
def Database.Misses (db : Database) (tables : List Table) : Prop :=
  ∃ t ∈ tables, t ∈ db.droppedTables

instance (db : Database) (tables : List Table) : Decidable (db.Misses tables) :=
  inferInstanceAs (Decidable (∃ t ∈ tables, t ∈ db.droppedTables))

section

variable {db : Database} {tables : List Table}

theorem Database.misses_congr {others : List Table} (h : ∀ t, t ∈ tables ↔ t ∈ others) :
    db.Misses tables ↔ db.Misses others :=
  exists_congr fun t => and_congr_left' (h t)

/-- Where a table is missing, a statement lacks the first of its tables that is. -/
theorem Database.lacks?_of_misses (h : db.Misses tables) (columns : List (String × Column)) :
    ∃ t ∈ tables, t ∈ db.droppedTables ∧
      db.lacks? tables columns = some (.noTable t.name) := by
  obtain ⟨t, ht, hdropped⟩ := h
  have hfound : (tables.find? db.droppedTables.contains).isSome = true :=
    List.find?_isSome.mpr ⟨t, ht, List.contains_iff_mem.mpr hdropped⟩
  obtain ⟨first, hfirst⟩ := Option.isSome_iff_exists.mp hfound
  refine ⟨first, List.mem_of_find?_eq_some hfirst, ?_, ?_⟩
  · exact List.contains_iff_mem.mp (List.find?_some hfirst)
  · rw [Database.lacks?, hfirst]

theorem Database.lacks?_of_not_misses (hcolumns : db.droppedColumns = []) (h : ¬ db.Misses tables)
    (columns : List (String × Column)) : db.lacks? tables columns = none := by
  have htable : tables.find? db.droppedTables.contains = none := by
    rw [List.find?_eq_none]
    intro t ht hdropped
    exact h ⟨t, ht, List.contains_iff_mem.mp hdropped⟩
  have hcolumn : columns.find? (fun c => db.droppedColumns.contains c.2) = none := by
    rw [hcolumns]
    exact List.find?_eq_none.mpr fun _ _ => Bool.false_ne_true
  rw [Database.lacks?, htable, hcolumn]
  rfl

theorem lacks_eq_none (htables : db.droppedTables = []) (hcolumns : db.droppedColumns = [])
    (tables : List Table) (columns : List (String × Column)) : db.lacks? tables columns = none := by
  apply Database.lacks?_of_not_misses hcolumns
  rintro ⟨t, -, hdropped⟩
  rw [htables] at hdropped
  exact List.not_mem_nil hdropped

end

end TechCatalog.Store
