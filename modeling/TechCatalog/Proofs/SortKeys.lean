import TechCatalog.Search.PageOrder

/-!
# Sort keys and their tables

Whether the statistics are joined for a sort key is looked up in a list of names, apart from the
columns that the keys stand for. The list names exactly the keys of columns of the statistics, so
what is joined and what is ordered by agree.
-/

namespace TechCatalog.Search

open Request Store

theorem statsKeys_agree :
    ∀ k ∈ SortKey.all, statsKeys.contains k.name = (k.column.table == .stats) := by
  decide

theorem needsStats_eq {o : PageOrder} (h : o.key ∈ SortKey.all) :
    o.needsStats = (o.key.column.table == .stats) :=
  statsKeys_agree o.key h

theorem sortableColumn_of_mem {k : SortKey} (h : k ∈ SortKey.all) :
    k.column ∈ sortableColumns := by
  rw [SortKey.all, List.mem_append, List.mem_map, List.mem_map] at h
  rcases h with ⟨c, hc, rfl⟩ | ⟨c, hc, rfl⟩
  · exact hc
  · exact hc

/-- Results are sorted by a key of the list, whatever name is asked for. -/
theorem sortOf_key (p : Paging) : (sortOf p).1 ∈ SortKey.all := by
  have hdefault : SortKey.default ∈ SortKey.all := by decide
  simp only [sortOf]
  split
  · exact hdefault
  · split
    · rename_i name k hk
      exact List.mem_of_find?_eq_some hk
    · exact hdefault

end TechCatalog.Search
