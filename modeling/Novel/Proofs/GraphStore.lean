import Mathlib.Data.List.Induction
import Novel.Proofs.BookLoading

/-!
# What a story graph holds

Building a graph from a list of nodes loses no id and keeps no id twice. Read in order, the
graph has one node for each distinct id, in the order in which the ids first occur in the list,
and that node is the last one of the list with its id: a later row replaces an earlier one in
place, so the content and the position of a node come from different rows. Looking an id up
gives that node, and nothing for an id the list does not have. The duplicates reported are the
occurrences after the first, so an id that occurs `m` times is reported `m - 1` times, and the
size of the graph plus the number of duplicates is the length of the list.

The graph is built by inserting the nodes one at a time, so each fact is proved for a list with
one more node at its end, from what a single insertion does:

* `ids_put`: the ids stay in place when the id is present, and the new id goes last otherwise;
* `get?_put`: looking up the inserted id finds the new node, and every other lookup is as before;
* `mem_put`: a node of the new graph is the inserted one, or an old one with another id.
-/

namespace Novel.Story

def lastWithId (ns : List Node) (id : String) : Option Node :=
  ns.reverse.find? (fun n => n.id == id)

theorem lastWithId_append_singleton (ns : List Node) (n : Node) (id : String) :
    lastWithId (ns ++ [n]) id = if n.id = id then some n else lastWithId ns id := by
  by_cases h : n.id = id <;> simp [lastWithId, h]

theorem lastWithId_eq_none_iff (ns : List Node) (id : String) :
    lastWithId ns id = none ↔ id ∉ ns.map Node.id := by
  simp [lastWithId]

/-! ## One insertion -/

namespace Graph

/-- Looking up the inserted id finds the inserted node; other lookups are unchanged. -/
theorem get?_put (g : Graph) (n : Node) (id : String) :
    (g.put n).get? id = if n.id = id then some n else g.get? id := by
  show (g.put n).nodes.find? (fun m => m.id == id) =
    if n.id = id then some n else g.nodes.find? (fun m => m.id == id)
  unfold put
  split
  · rename_i hc
    rw [List.find?_map]
    by_cases hid : n.id = id
    · -- the first node with the inserted id is found, and replaced by the new node
      obtain ⟨m, hm, hmid⟩ := List.mem_map.1 ((contains_iff g n.id).1 hc)
      have hfind : (g.nodes.find? fun m => m.id == n.id).isSome :=
        List.find?_isSome.2 ⟨m, hm, by simp [hmid]⟩
      obtain ⟨m₀, hm₀⟩ := Option.isSome_iff_exists.1 hfind
      have hm₀id : m₀.id = n.id := by simpa using List.find?_some hm₀
      subst hid
      have hsame : ((fun m : Node => m.id == n.id) ∘ fun m => if m.id == n.id then n else m) =
          fun m => m.id == n.id := by
        funext m
        by_cases h : m.id = n.id <;> simp [h]
      rw [hsame, hm₀]
      simp [hm₀id]
    · -- a node with another id is neither replaced nor becomes a match
      have hsame : ((fun m : Node => m.id == id) ∘ fun m => if m.id == n.id then n else m) =
          fun m => m.id == id := by
        funext m
        by_cases h : m.id = n.id <;> simp [h]
      rw [hsame, if_neg hid]
      cases hfind : g.nodes.find? (fun m => m.id == id) with
      | none => rfl
      | some m =>
        have hmid : m.id = id := by simpa using List.find?_some hfind
        have hne : m.id ≠ n.id := fun h => hid (h ▸ hmid)
        simp [hne]
  · rename_i hc
    rw [List.find?_append]
    by_cases hid : n.id = id
    · -- no old node has the new id
      have hnone : g.nodes.find? (fun m => m.id == id) = none := by
        rw [List.find?_eq_none]
        intro m hm hmid
        exact hc ((contains_iff g n.id).2 (List.mem_map.2 ⟨m, hm, by simpa [hid] using hmid⟩))
      simp [hnone, hid]
    · simp [hid]

/-- A node of the graph after an insertion is the inserted node, or an old node with another
id. -/
theorem mem_put {g : Graph} {n m : Node} (h : m ∈ (g.put n).nodes) :
    m = n ∨ (m ∈ g.nodes ∧ m.id ≠ n.id) := by
  unfold put at h
  split at h
  · obtain ⟨m₀, hm₀, rfl⟩ := List.mem_map.1 h
    by_cases hid : m₀.id = n.id
    · exact .inl (by simp [hid])
    · exact .inr (by simp [hid, hm₀])
  · rename_i hc
    rcases List.mem_append.1 h with h | h
    · refine .inr ⟨h, fun hid => hc ((contains_iff g n.id).2 ?_)⟩
      exact List.mem_map.2 ⟨m, h, hid⟩
    · exact .inl (List.mem_singleton.1 h)

/-! ## Building, one node at a time -/

theorem buildFrom_append (g : Graph) (dups : List String) (xs ys : List Node) :
    buildFrom g dups (xs ++ ys) =
      buildFrom (buildFrom g dups xs).1 (buildFrom g dups xs).2 ys := by
  induction xs generalizing g dups with
  | nil => rfl
  | cons x xs ih => exact ih _ _

/-- Building from a list with one more node inserts that node last, and reports its id when
it is already present. -/
theorem build_append_singleton (ns : List Node) (n : Node) :
    build (ns ++ [n]) =
      ((build ns).1.put n,
        if (build ns).1.contains n.id then (build ns).2 ++ [n.id] else (build ns).2) := by
  rw [build, buildFrom_append]
  rfl

/-- The graph's ids are the list's distinct ids, in the order they first occur. -/
theorem build_ids (ns : List Node) :
    (build ns).1.nodes.map Node.id = (ns.map Node.id).eraseDups := by
  induction ns using List.reverseRecOn with
  | nil => rfl
  | append_singleton ns n ih =>
    rw [build_append_singleton, ids_put, ih, List.map_append, List.map_cons, List.map_nil,
      List.eraseDups_append]
    by_cases hc : (build ns).1.contains n.id = true
    · -- the id is there already, and nothing is added
      have hrem : [n.id].removeAll (ns.map Node.id) = [] := by
        simpa [List.removeAll, List.filter_cons] using (build_contains ns n.id).1 hc
      simp [hc, hrem]
    · have hrem : [n.id].removeAll (ns.map Node.id) = [n.id] := by
        simpa [List.removeAll, List.filter_cons] using mt (build_contains ns n.id).2 hc
      simp [hc, hrem, List.eraseDups_cons]

/-- **Looking an id up gives the last node of the list with that id.** -/
theorem build_get? (ns : List Node) (id : String) :
    (build ns).1.get? id = lastWithId ns id := by
  induction ns using List.reverseRecOn with
  | nil => rfl
  | append_singleton ns n ih =>
    rw [build_append_singleton, get?_put, ih, lastWithId_append_singleton]

/-- Every node of the graph is the last node of the list with its id. -/
theorem build_nodes_last (ns : List Node) :
    ∀ m ∈ (build ns).1.nodes, lastWithId ns m.id = some m := by
  induction ns using List.reverseRecOn with
  | nil => simp [build, buildFrom]
  | append_singleton ns n ih =>
    intro m hm
    rw [build_append_singleton] at hm
    rw [lastWithId_append_singleton]
    rcases mem_put hm with rfl | ⟨hm, hid⟩
    · simp
    · rw [if_neg (Ne.symm hid)]
      exact ih m hm

theorem size_put (g : Graph) (n : Node) :
    (g.put n).size = if g.contains n.id then g.size else g.size + 1 := by
  have h := congrArg List.length (ids_put g n)
  rw [List.length_map] at h
  rw [size, h, size]
  split <;> simp

/-- Each node of the list is either kept in the graph or reported as a duplicate. -/
theorem build_size_add_dups (ns : List Node) :
    (build ns).1.size + (build ns).2.length = ns.length := by
  induction ns using List.reverseRecOn with
  | nil => rfl
  | append_singleton ns n ih =>
    rw [build_append_singleton, size_put]
    by_cases hc : (build ns).1.contains n.id = true
    · simp only [hc, if_true, List.length_append, List.length_singleton]
      omega
    · simp only [hc, Bool.false_eq_true, if_false, List.length_append, List.length_singleton]
      omega

end Graph

/-! ## Repeated ids -/

/-- An id is repeated once for each occurrence after the first, where an id already `seen`
counts as having occurred. -/
theorem count_repeatsAfter (x : String) :
    ∀ (seen ids : List String),
      (repeatsAfter seen ids).count x = if x ∈ seen then ids.count x else ids.count x - 1
  | _, [] => by simp [repeatsAfter]
  | seen, y :: ys => by
    have ih₁ := count_repeatsAfter x seen ys
    have ih₂ := count_repeatsAfter x (seen ++ [y]) ys
    by_cases hy : y ∈ seen
    · rw [repeatsAfter, if_pos hy, List.count_cons, List.count_cons, ih₁]
      by_cases hx : x ∈ seen
      · simp [hx]
      · -- `x` is not seen and `y` is, so this occurrence is not one of `x`
        have hxy : ¬ (y == x) = true := by
          intro h
          exact hx (beq_iff_eq.1 h ▸ hy)
        simp [hx, hxy]
    · rw [repeatsAfter, if_neg hy, List.count_cons, ih₂]
      by_cases hx : x ∈ seen
      · have hxy : ¬ (y == x) = true := by
          intro h
          exact hy (beq_iff_eq.1 h ▸ hx)
        simp [hx, hxy]
      · by_cases hxy : y = x
        · -- the first occurrence of `x`: from here on it counts as seen
          subst hxy
          simp [hx]
        · have hxy' : ¬ (y == x) = true := by simpa using hxy
          have hmem : x ∉ seen ++ [y] := by simp [hx, Ne.symm hxy]
          simp [hx, hxy', hmem]

theorem count_repeats (ids : List String) (x : String) :
    (repeats ids).count x = ids.count x - 1 := by
  simp [repeats, count_repeatsAfter]

/-! ## The graph of a list of nodes -/

open Novel.Story.Graph in
/-- **Building a graph loses nothing and keeps nothing twice.** The graph lists one node per
distinct id, in the order the ids first occur, and each is the last node of the list with its
id; lookups find exactly those nodes; the size is the number of distinct ids; the first id is
the list's first; and the duplicates are the occurrences after the first, in order, so that
size and duplicates together account for every node of the list. -/
theorem build_one_node_per_id (ns : List Node) :
    let g := (build ns).1
    let dups := (build ns).2
    g.nodes.map Node.id = (ns.map Node.id).eraseDups ∧
      (∀ m ∈ g.nodes, lastWithId ns m.id = some m) ∧
      (∀ id, g.get? id = lastWithId ns id) ∧
      (∀ id, g.get? id = none ↔ id ∉ ns.map Node.id) ∧
      g.size = (ns.map Node.id).eraseDups.length ∧ g.size = g.nodes.length ∧
      g.firstId? = ns.head?.map Node.id ∧
      dups = repeats (ns.map Node.id) ∧
      (∀ id, dups.count id = (ns.map Node.id).count id - 1) ∧
      g.size + dups.length = ns.length := by
  dsimp only
  have hsize : (build ns).1.size = (ns.map Node.id).eraseDups.length := by
    rw [size, ← build_ids ns, List.length_map]
  refine ⟨build_ids ns, build_nodes_last ns, build_get? ns, ?_, hsize, rfl, ?_, build_dups ns,
    ?_, build_size_add_dups ns⟩
  · intro id
    rw [build_get?, lastWithId_eq_none_iff]
  · rw [build_firstId?, List.head?_map]
  · intro id
    rw [build_dups, count_repeats]

end Novel.Story
