import Novel.Story.Book

/-!
# Loading a book

Loading reads the story tab and the metadata tab and either gives a book or stops at the first
check that fails, keeping nothing. The checks come in a fixed order:

1. the story tab has a header row and a row below it;
2. the metadata has a title;
3. there is a start node: the metadata's, or else the id of the first playable row;
4. the start node is the id of a playable row.

The events come in a fixed order too: the notice of an ambiguous metadata layout (once the story
rows are read), one report per repeated node id in row order, the defaulted start node, and last,
only when a book comes out, the loaded story.

`Loading` states all of this for the rows of the two tabs, case by case, without reference to
the graph the loader builds. The main statement is that loading yields exactly the outcome
`Loading` allows, and that it is unique. What carries the proof are three facts about building
a graph from a list of nodes: it holds exactly the ids of the list, its first id is the list's
first, and the duplicates it reports are the list's repeated ids in order.
-/

namespace Novel.Story

/-! ## Building a graph -/

namespace Graph

theorem contains_iff (g : Graph) (id : String) :
    g.contains id = true ↔ id ∈ g.nodes.map Node.id := by
  simp [contains]

theorem firstId?_eq (g : Graph) : g.firstId? = (g.nodes.map Node.id).head? := by
  simp [firstId?]

/-- Putting a node keeps the ids in place when its id is present, and adds it last when not. -/
theorem ids_put (g : Graph) (n : Node) :
    (g.put n).nodes.map Node.id =
      if g.contains n.id then g.nodes.map Node.id else g.nodes.map Node.id ++ [n.id] := by
  unfold put
  split
  · -- the replaced node has the id of the node it replaces
    rw [List.map_map]
    apply List.map_congr_left
    intro m _
    by_cases h : m.id = n.id <;> simp [h]
  · simp

end Graph

/-- The ids of a list that were seen before: one entry for each occurrence of an id that is in
`seen` or occurs earlier in the list, in order. -/
def repeatsAfter (seen : List String) : List String → List String
  | [] => []
  | x :: xs => if x ∈ seen then x :: repeatsAfter seen xs else repeatsAfter (seen ++ [x]) xs

/-- The repeated ids of a list: one entry for each occurrence after the first, in order. -/
def repeats (ids : List String) : List String := repeatsAfter [] ids

example : repeats ["a", "b", "a", "c", "b", "a"] = ["a", "b", "a"] := by decide

namespace Graph

/-- Building on a graph keeps its ids and adds the new ones, in the order they first appear. -/
theorem buildFrom_ids (g : Graph) (dups : List String) (ns : List Node) :
    ∀ id, (buildFrom g dups ns).1.contains id = true ↔
      g.contains id = true ∨ id ∈ ns.map Node.id := by
  induction ns generalizing g dups with
  | nil => simp [buildFrom]
  | cons n ns ih =>
    intro id
    rw [buildFrom, ih, contains_iff, contains_iff, ids_put]
    by_cases h : g.contains n.id = true
    · -- the node's id is in the graph already, so putting it adds no id
      have hmem := (contains_iff g n.id).1 h
      simp only [h, if_true, List.map_cons, List.mem_cons]
      grind
    · simp only [h, Bool.false_eq_true, if_false, List.mem_append, List.map_cons, List.mem_cons]
      grind

/-- Building keeps the first id of a graph, and an empty graph takes the list's first id. -/
theorem buildFrom_firstId? (g : Graph) (dups : List String) (ns : List Node) :
    (buildFrom g dups ns).1.firstId? = (g.nodes.map Node.id ++ ns.map Node.id).head? := by
  induction ns generalizing g dups with
  | nil => simp [buildFrom, firstId?_eq]
  | cons n ns ih =>
    rw [buildFrom, ih, ids_put]
    split
    · rename_i h
      rw [contains_iff] at h
      -- the graph has a first id already, which later nodes cannot change
      generalize g.nodes.map Node.id = ids at h ⊢
      cases ids with
      | nil => simp at h
      | cons x ids => rfl
    · simp [List.head?_append]

/-- **The duplicates reported are the repeated ids, in order.** -/
theorem buildFrom_dups (g : Graph) (dups : List String) (ns : List Node) :
    (buildFrom g dups ns).2 = dups ++ repeatsAfter (g.nodes.map Node.id) (ns.map Node.id) := by
  induction ns generalizing g dups with
  | nil => simp [buildFrom, repeatsAfter]
  | cons n ns ih =>
    rw [buildFrom, ih, ids_put]
    by_cases h : g.contains n.id = true
    · have hmem : n.id ∈ g.nodes.map Node.id := (contains_iff g n.id).1 h
      simp [repeatsAfter, h, hmem]
    · have hmem : n.id ∉ g.nodes.map Node.id := fun hm => h ((contains_iff g n.id).2 hm)
      simp [repeatsAfter, h, hmem]

theorem build_contains (ns : List Node) (id : String) :
    (build ns).1.contains id = true ↔ id ∈ ns.map Node.id := by
  rw [build, buildFrom_ids]
  simp [contains]

theorem build_firstId? (ns : List Node) : (build ns).1.firstId? = (ns.map Node.id).head? := by
  simp [build, buildFrom_firstId?]

theorem build_dups (ns : List Node) : (build ns).2 = repeats (ns.map Node.id) := by
  simp [build, buildFrom_dups, repeats]

end Graph

/-! ## What loading yields -/

/-- The nodes of the playable rows of a story tab: the rows below the header that have an id and
either text or a first choice target. -/
def playable (rows : List Table.Row) : List Node := rows.tail.filterMap nodeOfRow

theorem nodesOfRows_of_two_le {rows : List Table.Row} (h : 2 ≤ rows.length) :
    nodesOfRows rows = .ok (playable rows) := by
  match rows, h with
  | _ :: _ :: _, _ => rfl

theorem nodesOfRows_of_lt_two {rows : List Table.Row} (h : rows.length < 2) :
    nodesOfRows rows = .error .missingRows := by
  match rows, h with
  | [], _ => rfl
  | [_], _ => rfl

/-- The start node of a story: the metadata's, or else the id of the first node. -/
def startOf (m : Metadata) (nodes : List Node) : Option String :=
  m.startNode <|> (nodes.map Node.id).head?

theorem startOf_eq_none {m : Metadata} {nodes : List Node} :
    startOf m nodes = none ↔ m.startNode = none ∧ nodes = [] := by
  simp [startOf]

theorem MetadataTab.read_eq_error {rows : List Table.Row} {p : Problem}
    (h : MetadataTab.read rows = .error p) : p = .missingTitle := by
  simp only [MetadataTab.read] at h
  -- whatever the layout, the only refusal is the missing title
  split at h <;> split at h <;> cases h <;> rfl

namespace Book

/-- The notice that the metadata tab fits both layouts. -/
def layoutNotice (metadataRows : List Table.Row) : List Event :=
  if MetadataTab.isAmbiguous metadataRows then [.ambiguousLayout] else []

/-- One report for each repeated node id, in row order. -/
def duplicateReports (nodes : List Node) : List Event :=
  (repeats (nodes.map Node.id)).map Event.duplicate

/-- What loading the tabs with these rows yields, check by check: the events reported, then the
problem or the book. -/
inductive Loading (rows metadataRows : List Table.Row) :
    List Event × Except Problem Book → Prop
  /-- The story tab lacks a header row or a row below it; nothing is reported. -/
  | missingRows : rows.length < 2 → Loading rows metadataRows ([], .error .missingRows)
  /-- The metadata gives no title. -/
  | missingTitle : 2 ≤ rows.length → (∀ m, MetadataTab.read metadataRows ≠ .ok m) →
      Loading rows metadataRows (layoutNotice metadataRows, .error .missingTitle)
  /-- The metadata names no start node and no row is playable. -/
  | emptyStory {m : Metadata} : 2 ≤ rows.length → MetadataTab.read metadataRows = .ok m →
      m.startNode = none → playable rows = [] →
      Loading rows metadataRows (layoutNotice metadataRows, .error .emptyStory)
  /-- The start node is not the id of a playable row. -/
  | unknownStart {m : Metadata} {id : String} : 2 ≤ rows.length →
      MetadataTab.read metadataRows = .ok m → startOf m (playable rows) = some id →
      id ∉ (playable rows).map Node.id →
      Loading rows metadataRows
        (layoutNotice metadataRows ++ duplicateReports (playable rows), .error (.unknownStart id))
  /-- The book of the playable rows, starting at the start node, which the metadata now names. -/
  | loaded {m : Metadata} (b : Book) : 2 ≤ rows.length → MetadataTab.read metadataRows = .ok m →
      startOf m (playable rows) = some b.start → b.start ∈ (playable rows).map Node.id →
      b.graph = (Graph.build (playable rows)).1 → b.metadata = { m with startNode := some b.start } →
      Loading rows metadataRows
        (layoutNotice metadataRows ++ duplicateReports (playable rows) ++
          (if m.startNode = none then [.startDefaulted b.start] else []) ++
          [.loaded b.metadata.title b.graph.size b.start], .ok b)

/-- Putting checked parts together yields what `Loading` allows once the rows and the title are
there. -/
theorem loading_assemble {rows metadataRows : List Table.Row} {m : Metadata}
    (hlen : 2 ≤ rows.length) (hm : MetadataTab.read metadataRows = .ok m) :
    Loading rows metadataRows
      (layoutNotice metadataRows ++ (assemble (playable rows) m).1,
        (assemble (playable rows) m).2) := by
  have hdups := Graph.build_dups (playable rows)
  have hfirst := Graph.build_firstId? (playable rows)
  have hcont := Graph.build_contains (playable rows)
  unfold assemble
  rcases hb : Graph.build (playable rows) with ⟨graph, dups⟩
  rw [hb] at hdups hfirst hcont
  simp only at hdups hfirst hcont
  subst hdups
  dsimp only
  cases hs : m.startNode with
  | some id =>
    by_cases hid : graph.contains id = true
    · -- the metadata's start node is a node: the book is made
      have h : Loading rows metadataRows _ := .loaded
        { graph := graph, metadata := m, start := id, start_mem := hid } hlen hm
        (by simp [startOf, hs]) ((hcont id).1 hid) (by rw [hb]) (by cases m; simp_all)
      simpa [hid, hs, duplicateReports] using h
    · have h : Loading rows metadataRows _ := .unknownStart hlen hm
        (by simp [startOf, hs]) (fun h => hid ((hcont id).2 h))
      simpa [hid, duplicateReports] using h
  | none =>
    cases hf : graph.firstId? with
    | none =>
      -- no start node and no first node: the story has no playable row
      have hnil : playable rows = [] := by
        rw [hf, eq_comm, List.head?_eq_none_iff, List.map_eq_nil_iff] at hfirst
        exact hfirst
      have h : Loading rows metadataRows _ := .emptyStory hlen hm hs hnil
      simpa [hnil, duplicateReports, repeats, repeatsAfter] using h
    | some id =>
      -- the first node's id is a node id by construction
      have hid : graph.contains id = true :=
        (hcont id).2 (List.mem_of_head? (hf ▸ hfirst).symm)
      have h : Loading rows metadataRows _ := .loaded
        { graph := graph, metadata := { m with startNode := some id }, start := id,
          start_mem := hid } hlen hm
        (by simp [startOf, hs, ← hfirst, hf]) ((hcont id).1 hid) (by rw [hb]) rfl
      simpa [hid, hs, duplicateReports] using h

theorem loading_ofSheets (story metadata : String) :
    Loading (Table.read story) (Table.read metadata) (ofSheets story metadata) := by
  dsimp only [ofSheets]
  by_cases hlen : (Table.read story).length < 2
  · rw [nodesOfRows_of_lt_two hlen]
    exact .missingRows hlen
  · have hlen' : 2 ≤ (Table.read story).length := by omega
    rw [nodesOfRows_of_two_le hlen']
    cases hm : MetadataTab.read (Table.read metadata) with
    | error p =>
      obtain rfl := MetadataTab.read_eq_error hm
      exact .missingTitle hlen' (fun m h => by rw [hm] at h; cases h)
    | ok m => exact loading_assemble hlen' hm

theorem eq_of_parts {b b' : Book} (hg : b.graph = b'.graph) (hm : b.metadata = b'.metadata)
    (hs : b.start = b'.start) : b = b' := by
  cases b
  cases b'
  simp only at hg hm hs
  subst hg hm hs
  rfl

/-- `Loading` allows one outcome only: its cases exclude each other, and each fixes the events
and the result. -/
theorem Loading.unique {rows metadataRows : List Table.Row}
    {o o' : List Event × Except Problem Book}
    (h : Loading rows metadataRows o) (h' : Loading rows metadataRows o') : o = o' := by
  cases h with
  | missingRows hl =>
    cases h' with
    | missingRows => rfl
    | missingTitle hl' _ | emptyStory hl' _ _ _ | unknownStart hl' _ _ _
    | loaded _ hl' _ _ _ _ _ => omega
  | missingTitle hl hm =>
    cases h' with
    | missingRows hl' => omega
    | missingTitle => rfl
    | emptyStory _ hm' _ _ | unknownStart _ hm' _ _ | loaded _ _ hm' _ _ _ _ =>
      exact absurd hm' (hm _)
  | emptyStory hl hm hs hn =>
    cases h' with
    | missingRows hl' => omega
    | missingTitle _ hm' => exact absurd hm (hm' _)
    | emptyStory => rfl
    | unknownStart _ hm' hs' _ | loaded _ _ hm' hs' _ _ _ =>
      -- without a start node in the metadata and without nodes there is no start node
      rw [hm] at hm'
      cases hm'
      rw [startOf_eq_none.2 ⟨hs, hn⟩] at hs'
      cases hs'
  | unknownStart hl hm hs hid =>
    cases h' with
    | missingRows hl' => omega
    | missingTitle _ hm' => exact absurd hm (hm' _)
    | emptyStory _ hm' hs' hn' =>
      rw [hm] at hm'
      cases hm'
      rw [startOf_eq_none.2 ⟨hs', hn'⟩] at hs
      cases hs
    | unknownStart _ hm' hs' _ =>
      rw [hm] at hm'
      cases hm'
      rw [hs] at hs'
      cases hs'
      rfl
    | loaded _ _ hm' hs' hid' _ _ =>
      rw [hm] at hm'
      cases hm'
      rw [hs] at hs'
      cases hs'
      exact absurd hid' hid
  | loaded b hl hm hs hid hg hmeta =>
    cases h' with
    | missingRows hl' => omega
    | missingTitle _ hm' => exact absurd hm (hm' _)
    | emptyStory _ hm' hs' hn' =>
      rw [hm] at hm'
      cases hm'
      rw [startOf_eq_none.2 ⟨hs', hn'⟩] at hs
      cases hs
    | unknownStart _ hm' hs' hid' =>
      rw [hm] at hm'
      cases hm'
      rw [hs] at hs'
      cases hs'
      exact absurd hid hid'
    | loaded b' _ hm' hs' _ hg' hmeta' =>
      rw [hm] at hm'
      cases hm'
      -- the start node, the graph and the metadata are all fixed by the rows
      have hstart : b.start = b'.start := Option.some.inj (hs.symm.trans hs')
      obtain rfl : b = b' := eq_of_parts (hg.trans hg'.symm) (by rw [hmeta, hmeta', hstart]) hstart
      rfl

theorem loaded_not_mem_reports (metadataRows : List Table.Row) (nodes : List Node)
    (title : String) (n : Nat) (start : String) :
    Event.loaded title n start ∉ layoutNotice metadataRows ++ duplicateReports nodes := by
  unfold layoutNotice duplicateReports
  split <;> simp

/-- A story is reported loaded exactly when loading gives a book. -/
theorem Loading.ok_iff_loaded {rows metadataRows : List Table.Row}
    {o : List Event × Except Problem Book} (h : Loading rows metadataRows o) :
    (∃ b, o.2 = .ok b) ↔ ∃ title n start, Event.loaded title n start ∈ o.1 := by
  cases h with
  | missingRows => simp
  | missingTitle | emptyStory =>
    have := loaded_not_mem_reports metadataRows []
    simp_all [duplicateReports, repeats, repeatsAfter]
  | unknownStart =>
    have := loaded_not_mem_reports metadataRows (playable rows)
    simp_all
  | loaded b =>
    -- the loaded story is the last event
    exact ⟨fun _ => ⟨_, _, _, List.mem_append_right _ (List.mem_singleton_self _)⟩,
      fun _ => ⟨b, rfl⟩⟩

/-- **Loading a book is all or nothing, and ordered.** Loading the two tabs yields exactly the
outcome `Loading` allows: the first failing check among missing story rows, a missing title, a
missing start node and an unknown start node, or else a book of the playable rows whose start node
is one of them; and the events in order. A story is reported loaded exactly when a book comes
out. -/
theorem ofSheets_all_or_nothing (story metadata : String) :
    (∀ out, ofSheets story metadata = out ↔
        Loading (Table.read story) (Table.read metadata) out) ∧
      ((∃ b, (ofSheets story metadata).2 = .ok b) ↔
        ∃ title n start, Event.loaded title n start ∈ (ofSheets story metadata).1) := by
  have hl := loading_ofSheets story metadata
  exact ⟨fun out => ⟨fun h => h ▸ hl, hl.unique⟩, hl.ok_iff_loaded⟩

end Book

end Novel.Story
