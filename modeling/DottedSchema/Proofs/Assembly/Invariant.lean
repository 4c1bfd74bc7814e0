import DottedSchema.Proofs.Assembly.Spacing

set_option autoImplicit false

namespace DottedSchema

namespace Statement

open Content

variable {root : String} {limit : Nat} {path label key : String} {place : Path} {value : Json}

/-- What is stated about a tree of limited depth: metadata is given to fields below the root only, and the place is
one that a node can have. -/
structure Placed (limit : Nat) (s : Statement) : Prop where
  metadata : ∀ q key value, s.given? q key = some value → IsMetadata key value ∧ q ≠ []
  spaced : s.target.Spaced
  within : s.target.length ≤ limit

theorem placed_of_nothing_given {s : Statement} (hspaced : s.target.Spaced) (hlimit : s.target.length ≤ limit)
    (h : ∀ q key, s.given? q key = none) : s.Placed limit := by
  refine ⟨fun q key value hv => ?_, hspaced, hlimit⟩
  rw [h] at hv
  cases hv

theorem placed_refused (fault : Fault) : (refused fault).Placed limit :=
  placed_of_nothing_given Path.spaced_nil (Nat.zero_le _) fun _ _ => rfl

theorem placed_metadata (hspaced : place.Spaced) (hlimit : place.length ≤ limit) (hplace : place ≠ [])
    (hvalue : IsMetadata key value) : (metadata place label key value).Placed limit := by
  refine ⟨fun q k v hv => ?_, hspaced, hlimit⟩
  obtain ⟨rfl, rfl, rfl⟩ := given?_metadata_iff.1 hv
  exact ⟨hvalue, hplace⟩

theorem placed_ofMember (hspaced : place.Spaced) (hlimit : place.length ≤ limit) (hplace : place ≠ []) :
    ∀ s ∈ ofMember limit place label key value, s.Placed limit := by
  induction value using Json.induction generalizing place label key with
  | object below ih =>
    intro s hs
    rcases isMetadata_or key (.object below) with hmeta | ⟨hfree, -⟩
    · rw [ofMember_metadata hmeta, List.mem_singleton] at hs
      rw [hs]
      exact placed_metadata hspaced hlimit hplace hmeta
    · rw [ofMember_inline hfree] at hs
      split at hs
      · rw [List.mem_singleton.1 hs]
        exact placed_refused _
      · rename_i hroom
        have hbelow : (place ++ [Step.field key]).length ≤ limit := by
          rw [List.length_append, List.length_singleton]
          omega
        rcases List.mem_cons.1 hs with rfl | hs
        · exact placed_of_nothing_given (hspaced.concat key) hbelow fun _ _ => rfl
        · rw [ofMembers_eq_flatMap, List.mem_flatMap] at hs
          obtain ⟨m, hm, hs⟩ := hs
          exact ih m hm (hspaced.concat key) hbelow (List.append_ne_nil_of_right_ne_nil _ (List.cons_ne_nil _ _)) s hs
  | null | bool _ | number _ | text _ | array _ =>
    intro s hs
    rw [ofMember_metadata (.inl rfl), List.mem_singleton] at hs
    rw [hs]
    exact placed_metadata hspaced hlimit hplace (.inl rfl)

theorem ne_nil_of_ofEntry {rest : List Statement} (hparse : Path.parse path = .ok (.field root :: place))
    (h : ofEntry root limit path value = nodes place :: rest) : place ≠ [] := by
  rintro rfl
  rw [ofEntry, hparse] at h
  cases h

theorem placed_ofEntry (root : String) (limit : Nat) (path : String) (value : Json) :
    ∀ s ∈ ofEntry root limit path value, s.Placed limit := by
  intro s hs
  rcases ofEntry_cases root limit path value with ⟨fault, hc⟩ | ⟨place, members, rfl, hparse, hlimit, hhead, hc⟩
  · rw [hc, List.mem_singleton] at hs
    rw [hs]
    exact placed_refused fault
  · have hplace : place ≠ [] := ne_nil_of_ofEntry hparse hc
    have hspaced : Path.Spaced place :=
      Path.spaced_of_chain (Path.spaced_cons_field.1 (Path.canonical_of_parse hparse).spaced) hhead
    rw [hc, ofMembers_eq_flatMap] at hs
    rcases List.mem_cons.1 hs with rfl | hs
    · exact placed_of_nothing_given hspaced hlimit fun _ _ => rfl
    · obtain ⟨m, -, hs⟩ := List.mem_flatMap.1 hs
      exact placed_ofMember hspaced hlimit hplace s hs

theorem placed_ofEntries (root : String) (limit : Nat) (entries : List (String × Json)) :
    ∀ s ∈ ofEntries root limit entries, s.Placed limit := by
  intro s hs
  obtain ⟨e, -, hs⟩ := List.mem_flatMap.1 hs
  exact placed_ofEntry root limit e.1 e.2 s hs

end Statement

namespace Node

open Statement

variable {root : String} {limit : Nat} {s : Statement} {statements : List Statement} {path place : Path} {step : Step}
  {node new next tree changed : Node} {entry : String × Json} {entries : List (String × Json)}

def insertEntry (root : String) (limit : Nat) (tree : Node) (entry : String × Json) : Except Fault Node :=
  assertAll root (ofEntry root limit entry.1 entry.2) tree

theorem assemble_eq_foldlM (root : String) (limit : Nat) (entries : List (String × Json)) :
    assemble root limit entries = entries.foldlM (insertEntry root limit) empty := by
  rw [assemble]
  generalize empty = tree
  induction entries generalizing tree with
  | nil => rfl
  | cons e rest ih =>
    rw [List.foldlM_cons, ofEntries, List.flatMap_cons, assertAll, List.foldlM_append]
    exact bind_congr fun next => ih next

structure Tidy (node : Node) : Prop where
  apart : ∀ name ∈ Keyed.keys node.metadata, name ∉ Keyed.keys node.children
  mappings : ∀ key members, (key, Json.object members) ∈ node.metadata → key ∈ reservedKeys
  single : ∀ element, node.element = some element → element.element = none

def Invariant (tree : Node) : Prop := ∀ place node, tree.get? place = some node → node.Tidy

theorem Invariant.tidy (h : node.Invariant) : node.Tidy := h [] node rfl

theorem Invariant.get? (h : tree.Invariant) (hn : tree.get? place = some node) : node.Invariant := by
  intro q n hq
  refine h (place ++ q) n ?_
  rw [get?_append, hn]
  exact hq

theorem tidy_empty : empty.Tidy where
  apart _ hm := absurd hm List.not_mem_nil
  mappings _ _ hm := absurd hm List.not_mem_nil
  single _ he := nomatch he

theorem invariant_empty : empty.Invariant := by
  intro place node hn
  cases place with
  | nil => exact Option.some.inj hn ▸ tidy_empty
  | cons step rest =>
    rw [get?_empty_cons] at hn
    cases hn

theorem Invariant.nodeAt (h : tree.Invariant) (place : Path) : (tree.nodeAt place).Invariant := by
  cases hn : tree.get? place with
  | none =>
    rw [Node.nodeAt, hn]
    exact invariant_empty
  | some node =>
    rw [nodeAt_of_get? hn]
    exact h.get? hn

theorem Invariant.of_steps (ht : node.Tidy) (hsteps : ∀ step next, node.step? step = some next → next.Invariant) :
    node.Invariant := by
  intro place n hn
  cases place with
  | nil => exact Option.some.inj hn ▸ ht
  | cons step rest =>
    obtain ⟨next, hnext, hrest⟩ := Option.bind_eq_some_iff.1 hn
    exact hsteps step next hnext rest n hrest

theorem Tidy.update (h : node.Tidy) (hplaced : s.Placed limit) (hfits : s.Fits node) : (s.update node).Tidy := by
  cases s with
  | metadata place label key value =>
    have hgiven : (Statement.metadata place label key value).given? place key = some value :=
      given?_metadata_iff.2 ⟨rfl, rfl, rfl⟩
    refine ⟨fun name hm => ?_, fun k members hm => ?_, h.single⟩
    · rcases Keyed.mem_keys_insert.1 hm with rfl | hm
      · exact Keyed.find?_eq_none_iff.1 (hfits.2 _ value hgiven).1
      · exact h.apart name hm
    · rcases Keyed.mem_of_mem_insert hm with he | hm
      · obtain ⟨rfl, rfl⟩ := Prod.mk.inj he
        rcases (hplaced.metadata _ _ _ hgiven).1 with hnone | hreserved
        · cases hnone
        · exact hreserved
      · exact h.mappings k members hm
  | nodes _ | child _ _ _ | refused _ => exact h

theorem Invariant.update (h : node.Invariant) (hplaced : s.Placed limit) (hfits : s.Fits node) :
    (s.update node).Invariant := by
  intro place n hn
  by_cases hplace : place = []
  · subst hplace
    exact Option.some.inj hn ▸ h.tidy.update hplaced hfits
  · rw [(update_sameBelow s node).get?_eq hplace] at hn
    exact h place n hn

theorem Tidy.setStep (h : node.Tidy) (hopen : node.blocks step = false) (hsingle : step = .items → next.element = none) :
    (node.setStep step next).Tidy := by
  cases step with
  | items => exact ⟨h.apart, h.mappings, fun _ he => Option.some.inj he ▸ hsingle rfl⟩
  | field name =>
    refine ⟨fun other hm hc => ?_, h.mappings, h.single⟩
    rcases Keyed.mem_keys_insert.1 hc with rfl | hc
    · exact Keyed.find?_eq_none_iff.1 (blocks_eq_false_iff.1 hopen other rfl) hm
    · exact h.apart other hm hc

theorem element_graft (hsame : SameBelow new (node.nodeAt path)) (hhead : path.head? ≠ some .items) :
    (graft path new node).element = node.element := by
  cases path with
  | nil => exact hsame.2
  | cons step rest =>
    cases step with
    | items => exact absurd rfl hhead
    | field name => rfl

/-- A changed node keeps the invariant where it is put, if the way there is open and has no element of an element
on it. -/
theorem Invariant.graft (h : node.Invariant) (hnew : new.Invariant) (hsame : SameBelow new (node.nodeAt path))
    (hopen : node.Open path) (hchain : List.IsChain Step.Follows path) : (graft path new node).Invariant := by
  induction path generalizing node with
  | nil => exact hnew
  | cons step rest ih =>
    obtain ⟨hfirst, hrest⟩ := open_cons.1 hopen
    obtain ⟨hfollows, hchain⟩ := List.isChain_cons.1 hchain
    rw [nodeAt_cons] at hsame
    refine .of_steps (h.tidy.setStep hfirst fun hitems => ?_) fun s n hn => ?_
    · have hhead : rest.head? ≠ some .items := fun he => hfollows _ he rfl hitems
      rw [element_graft hsame hhead, hitems]
      cases helement : node.element with
      | none => simp [Node.nodeAt, Node.get?, step?, helement, empty]
      | some element =>
        have hget : node.get? [.items] = some element := by simp [Node.get?, step?, helement]
        rw [nodeAt_of_get? hget]
        exact h.tidy.single element helement
    · rw [Node.graft, step?_setStep] at hn
      split at hn
      · exact Option.some.inj hn ▸ ih (h.nodeAt [step]) hsame hrest hchain
      · have hget : node.get? [s] = some n := by rw [Node.get?, hn]; rfl
        exact h.get? hget

theorem Invariant.assert (h : tree.Invariant) (hplaced : s.Placed limit) (hs : assert root tree s = .ok changed) :
    changed.Invariant := by
  obtain ⟨hopen, hfits, rfl⟩ := assert_ok_iff.1 hs
  exact h.graft ((h.nodeAt _).update hplaced hfits) (update_sameBelow s _) hopen hplaced.spaced.chain

theorem foldlM_keeps {α : Type} {P : Node → Prop} {f : Node → α → Except Fault Node} {xs : List α}
    (hstep : ∀ x ∈ xs, ∀ n m, P n → f n x = .ok m → P m) (h : P tree) (hrun : xs.foldlM f tree = .ok changed) :
    P changed := by
  induction xs generalizing tree with
  | nil =>
    cases hrun
    exact h
  | cons x rest ih =>
    rw [List.foldlM_cons] at hrun
    obtain ⟨next, hnext, hrun⟩ := bind_eq_ok hrun
    exact ih (fun y hy => hstep y (List.mem_cons_of_mem _ hy)) (hstep x List.mem_cons_self tree next h hnext) hrun

theorem Invariant.insertEntry (h : tree.Invariant) (hs : insertEntry root limit tree entry = .ok changed) :
    changed.Invariant :=
  foldlM_keeps (fun s hmem _ _ hi ha => hi.assert (placed_ofEntry root limit entry.1 entry.2 s hmem) ha) h hs

theorem assemble_length_le (h : assemble root limit entries = .ok tree) (hplace : tree.Has place) :
    place.length ≤ limit := by
  rcases ((describes_of_assertAll h).has_iff place).1 hplace with rfl | ⟨s, hs, hp⟩
  · exact Nat.zero_le _
  · exact hp.length_le.trans (placed_ofEntries root limit entries s hs).within

theorem assemble_root_metadata (h : assemble root limit entries = .ok tree) : tree.metadata = [] := by
  refine List.eq_nil_iff_forall_not_mem.2 fun m hm => ?_
  have hd := describes_of_assertAll h
  obtain ⟨s, hs, hv⟩ := hd.given [] m.1 m.2 (Keyed.find?_of_mem hd.ordered.metadata hm)
  exact ((placed_ofEntries root limit entries s hs).metadata _ _ _ hv).2 rfl

theorem assemble_root_element (h : assemble root limit entries = .ok tree) : tree.element = none := by
  refine Option.eq_none_iff_forall_ne_some.2 fun element he => ?_
  have hplace : tree.Has [.items] := has_iff_exists.2 ⟨element, by simp [Node.get?, step?, he]⟩
  exact absurd rfl ((List.isChain_cons.1 (assemble_spaced h hplace)).1 _ rfl rfl)

/-- Every assembled tree keeps to the invariant and to the limit, with a bare root, and one more entry keeps the
invariant of any tree. -/
theorem assemble_invariant (root : String) (limit : Nat) :
    (∀ entries tree, assemble root limit entries = .ok tree → tree.Invariant ∧ tree.metadata = [] ∧
      tree.element = none ∧ ∀ place, (tree.get? place).isSome → place.length ≤ limit) ∧
    ∀ tree entry changed, tree.Invariant → insertEntry root limit tree entry = .ok changed → changed.Invariant := by
  refine ⟨fun entries tree h => ?_, fun tree entry changed hi h => hi.insertEntry h⟩
  have hinvariant : tree.Invariant := by
    rw [assemble_eq_foldlM] at h
    exact foldlM_keeps (fun _ _ _ _ hi hs => hi.insertEntry hs) invariant_empty h
  exact ⟨hinvariant, assemble_root_metadata h, assemble_root_element h, fun _ hplace => assemble_length_le h hplace⟩

theorem assemble_invariant_element :
    let entries := [("g.a", Json.object [("coordinates", .object [("b", .null)]), ("b", .object [("units", .text "m")])]),
      ("g.c[:]", Json.object [])]
    let tree : Node := ⟨[], [("a", ⟨[("coordinates", .object [("b", .null)])], [("b", ⟨[("units", .text "m")], [], none⟩)],
      none⟩), ("c", ⟨[], [], some empty⟩)], none⟩
    let entry := ("g.c[:].d", Json.object [("type", .null)])
    let changed : Node := ⟨[], [("a", ⟨[("coordinates", .object [("b", .null)])], [("b", ⟨[("units", .text "m")], [],
      none⟩)], none⟩), ("c", ⟨[], [], some ⟨[], [("d", ⟨[("type", .null)], [], none⟩)], none⟩⟩)], none⟩
    assemble "g" 2 entries = .ok tree ∧ (tree.Invariant ∧ tree.metadata = [] ∧ tree.element = none ∧
      ∀ place, (tree.get? place).isSome → place.length ≤ 2) ∧
      insertEntry "g" 3 tree entry = .ok changed ∧ changed.Invariant := by
  intro entries tree entry changed
  have htree : assemble "g" 2 entries = .ok tree := by cbv
  have hchanged : insertEntry "g" 3 tree entry = .ok changed := by cbv
  have hall := (assemble_invariant "g" 2).1 entries tree htree
  exact ⟨htree, hall, hchanged, (assemble_invariant "g" 3).2 tree entry changed hall.1 hchanged⟩

end Node

end DottedSchema
