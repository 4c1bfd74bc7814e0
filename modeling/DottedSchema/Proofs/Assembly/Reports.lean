import DottedSchema.Proofs.Assembly.Invariant

/-!
# What is reported of an entry

While an entry is inserted, two beginnings of its path can be taken to be reported: up to the first step beyond the
limit, and up to the name of a metadata value that is in the way. Taken with checks, of the sum and of the length,
these are never out of range (`insert?_eq`). Their texts are the entry's path up to its end, a dot or a marker
(`Path.cut_of_begins`), and nothing else is reported as too deep or as leading through metadata, but for inline
children that are too deep (`insertEntry_error`).
-/
set_option autoImplicit false

namespace DottedSchema

namespace Path

variable {path q : Path} {label : String}

/-- The text begins the label, and the label goes on with a dot or with a marker, if it goes on. -/
structure Cut (text label : String) : Prop where
  begins : text.toList <+: label.toList
  ending : text = label ∨ (text ++ ".").toList <+: label.toList ∨ (text ++ "[:]").toList <+: label.toList

theorem cut_of_begins (h : parse label = .ok path) (hq : q <+: path) (hne : q ≠ []) :
    Cut (dotted q) label ∧ parse (dotted q) = .ok q := by
  have hcanonical : Canonical q := (canonical_of_parse h).initial hq
  have hnonempty : dotted q ≠ "" := dotted_ne_empty hcanonical hne
  refine ⟨⟨dotted_of_parse h ▸ dotted_begins hq, ?_⟩, parse_dotted hcanonical hne⟩
  obtain ⟨rest, rfl⟩ := hq
  have hlabel : rest.foldl append (dotted q) = label := by rw [← dotted_append, dotted_of_parse h]
  cases rest with
  | nil => exact .inl hlabel
  | cons step rest =>
    have hnext : (append (dotted q) step).toList <+: label.toList := hlabel ▸ foldl_append_begins rest _
    cases step with
    | items => exact .inr (.inr hnext)
    | field name =>
      rw [append_field hnonempty, String.toList_append] at hnext
      exact .inr (.inl ((List.prefix_append _ _).trans hnext))

/-- The first `index + 2` steps, if the sum is less than `bound` and there are as many. -/
def upTo? (bound index : Nat) (path : Path) : Option Path :=
  if index + 2 < bound ∧ index + 2 ≤ path.length then some (path.take (index + 2)) else none

theorem upTo?_eq {bound index : Nat} (hbound : path.length < bound) (hindex : index + 2 ≤ path.length) :
    upTo? bound index path = some (path.take (index + 2)) :=
  if_pos ⟨hindex.trans_lt hbound, hindex⟩

end Path

open Statement

namespace Node

variable {root path label key : String} {limit bound : Nat} {tree changed node : Node} {s : Statement} {place : Path}
  {value : Json} {fault : Fault} {entries : List (String × Json)} {entry : String × Json}

/-- The nodes along some steps of a path; `depth` steps of it, besides the first one, lie behind. -/
def descend? (bound : Nat) (components : Path) : Nat → Path → Node → Option (Except Fault Node)
  | _, [], node => some (.ok node)
  | depth, step :: rest, node =>
    if node.blocks step then
      (Path.upTo? bound depth components).map fun steps => .error (.inconsistent (Path.dotted steps) .throughMetadata)
    else (descend? bound components (depth + 1) rest (node.nodeAt [step])).map fun next => next.map (node.setStep step)

/-- `insertEntry` with all that it takes of the path checked; `none` if any of that is out of range. -/
def insert? (bound : Nat) (root : String) (limit : Nat) (tree : Node) (entry : String × Json) :
    Option (Except Fault Node) :=
  match Path.parse entry.1 with
  | .error fault => some (.error fault)
  | .ok (.field first :: rest) =>
    if first ≠ root ∨ rest = [] then some (.error (.malformedPath entry.1 (.notBelow root)))
    else if limit < rest.length then
      (Path.upTo? bound limit (.field first :: rest)).map fun steps => .error (.tooDeep (Path.dotted steps) limit)
    else rest[0]?.bind fun step =>
      if step = .items then some (.error (.malformedPath entry.1 .markerOnRoot))
      else match entry.2 with
        | .object members => (descend? bound (.field first :: rest) 0 rest tree).map fun next =>
            next >>= assertAll root (ofMembers limit rest entry.1 members)
        | _ => some (.error (.inconsistent entry.1 .entryNotMapping))
  | .ok _ => some (.error (.malformedPath entry.1 (.notBelow root)))

def insertAll? (bound : Nat) (root : String) (limit : Nat) : List (String × Json) → Node → Option (Except Fault Node)
  | [], tree => some (.ok tree)
  | entry :: rest, tree => (insert? bound root limit tree entry).bind fun
    | .error fault => some (.error fault)
    | .ok next => insertAll? bound root limit rest next

theorem descend?_eq {before rest : Path} (hbound : (.field root :: before ++ rest).length < bound) (node : Node) :
    descend? bound (.field root :: before ++ rest) before.length rest node =
      some (node.alter .ok (fun steps => descendFault root (before ++ steps)) rest) := by
  -- steps go over from `rest` to `before`, and the path that is sliced stays the same
  induction rest generalizing before node with
  | nil => rfl
  | cons step rest ih =>
    rw [descend?, alter_cons]
    split
    · have hindex : before.length + 2 ≤ (.field root :: before ++ step :: rest).length := by
        simp only [List.cons_append, List.length_cons, List.length_append]
        omega
      have htake : (.field root :: before ++ step :: rest).take (before.length + 2) =
          .field root :: (before ++ [step]) := by
        rw [List.cons_append, List.take_succ_cons, List.take_length_add_append]
        rfl
      rw [Path.upTo?_eq hbound hindex, htake]
      rfl
    · have hsplit : .field root :: before ++ step :: rest = .field root :: (before ++ [step]) ++ rest := by simp
      have hlength : before.length + 1 = (before ++ [step]).length := by simp
      have hrest := @ih (before ++ [step]) (hsplit ▸ hbound) (node.nodeAt [step])
      rw [hsplit, hlength, hrest]
      simp only [List.append_assoc, List.singleton_append]
      rfl

theorem insert?_eq (hword : ∀ components, Path.parse entry.1 = .ok components → components.length < bound) :
    insert? bound root limit tree entry = some (insertEntry root limit tree entry) := by
  obtain ⟨path, value⟩ := entry
  unfold insert? insertEntry ofEntry
  split
  · rename_i hparse
    rw [hparse]
    rfl
  · rename_i first rest hparse
    rw [hparse]
    have hbound := hword _ hparse
    cases rest with
    | nil =>
      rw [if_pos (.inr rfl)]
      rfl
    | cons step rest =>
      dsimp only
      by_cases hroot : first = root
      · subst hroot
        rw [if_neg (by simp), if_neg (not_not_intro rfl)]
        by_cases hdeep : limit < (step :: rest).length
        · rw [if_pos hdeep, if_pos hdeep, Path.upTo?_eq hbound (Nat.succ_le_succ hdeep)]
          rfl
        · rw [if_neg hdeep, if_neg hdeep, List.getElem?_cons_zero, Option.bind_some]
          by_cases hmarker : step = .items
          · rw [if_pos hmarker, if_pos hmarker]
            rfl
          · rw [if_neg hmarker, if_neg hmarker]
            cases value with
            | object members =>
              have hdescend := @descend?_eq first bound [] (step :: rest) hbound tree
              exact congrArg (Option.map _) hdescend
            | null | bool _ | number _ | text _ | array _ => rfl
      · rw [if_pos (.inl hroot), if_pos hroot]
        rfl
  · rename_i components hfirst hparse
    rw [hparse]
    cases components with
    | nil => rfl
    | cons step rest =>
      cases step with
      | items => rfl
      | field name => exact absurd rfl (hfirst name rest)

theorem insertAll?_eq (hword : ∀ e ∈ entries, ∀ components, Path.parse e.1 = .ok components →
    components.length < bound) (tree : Node) :
    insertAll? bound root limit entries tree = some (entries.foldlM (insertEntry root limit) tree) := by
  induction entries generalizing tree with
  | nil => rfl
  | cons e rest ih =>
    rw [insertAll?, insert?_eq (hword e List.mem_cons_self), List.foldlM_cons, Option.bind_some]
    cases insertEntry root limit tree e with
    | error fault => rfl
    | ok next => exact ih (fun f hf => hword f (List.mem_cons_of_mem _ hf)) next

structure Blocked (node : Node) (path above : Path) (name : String) : Prop where
  onPath : above ++ [.field name] <+: path
  value : (node.value? above name).isSome
  opened : node.Open above

theorem alter_cases (f : Node → Except Fault Node) (blocked : Path → Fault) (path : Path) (node : Node) :
    (∃ above name, node.Blocked path above name ∧
      alter f blocked path node = .error (blocked (above ++ [.field name]))) ∨
      node.Open path ∧ alter f blocked path node = (f (node.nodeAt path)).map (graft path · node) := by
  induction path generalizing node blocked with
  | nil =>
    refine .inr ⟨open_nil node, ?_⟩
    change f node = (f node).map id
    cases f node <;> rfl
  | cons step rest ih =>
    rw [alter_cons]
    cases hb : node.blocks step with
    | true =>
      cases step with
      | items => cases hb
      | field name =>
        have hfirst : [] ++ [Step.field name] <+: .field name :: rest := List.cons_prefix_cons.2 ⟨rfl, List.nil_prefix⟩
        exact .inl ⟨[], name, ⟨hfirst, hb, open_nil node⟩, rfl⟩
    | false =>
      rcases ih (fun steps => blocked (step :: steps)) (node.nodeAt [step]) with
        ⟨above, name, h, halter⟩ | ⟨hopen, halter⟩
      · refine .inl ⟨step :: above, name, ⟨?_, ?_, open_cons.2 ⟨hb, h.opened⟩⟩, ?_⟩
        · exact List.cons_prefix_cons.2 ⟨rfl, h.onPath⟩
        · rw [value?_cons]
          exact h.value
        · rw [halter]
          rfl
      · refine .inr ⟨open_cons.2 ⟨hb, hopen⟩, ?_⟩
        rw [halter, nodeAt_cons step rest]
        cases f ((node.nodeAt [step]).nodeAt rest) <;> rfl

theorem Open.not_blocked {path above : Path} {name : String} (h : node.Open path) :
    ¬ node.Blocked path above name := by
  intro hblocked
  have hvalue := hblocked.value
  rw [h above name hblocked.onPath] at hvalue
  cases hvalue

theorem Open.alter_eq {path : Path} (h : node.Open path) (f : Node → Except Fault Node) (blocked : Path → Fault) :
    alter f blocked path node = (f (node.nodeAt path)).map (graft path · node) := by
  rcases alter_cases f blocked path node with ⟨above, name, hblocked, -⟩ | ⟨-, halter⟩
  · exact absurd hblocked h.not_blocked
  · exact halter

inductive MergeFault (limit : Nat) (label : String) : Fault → Prop
  | deep (below : String) : MergeFault limit label (.tooDeep (label ++ "." ++ below) limit)
  | conflict {reported : String} {conflict : Conflict} (h : conflict ≠ .throughMetadata) :
      MergeFault limit label (.inconsistent reported conflict)

theorem MergeFault.of_child (h : MergeFault limit (label ++ "." ++ key) fault) : MergeFault limit label fault := by
  cases h with
  | conflict h => exact .conflict h
  | deep below =>
    have hlabel : label ++ "." ++ key ++ "." ++ below = label ++ "." ++ (key ++ "." ++ below) := by
      simp only [String.append_assoc]
    rw [hlabel]
    exact .deep _

theorem annotate_fault (limit : Nat) (h : annotate label key value node = .error fault) :
    MergeFault limit label fault := by
  unfold annotate at h
  split at h
  · cases h
    exact .conflict fun he => nomatch he
  · split at h
    · cases h
    · cases h
      exact .conflict fun he => nomatch he

theorem map_eq_error {α β : Type} {result : Except Fault α} {f : α → β} (h : result.map f = .error fault) :
    result = .error fault := by
  cases result with
  | error _ =>
    cases h
    rfl
  | ok _ => cases h

theorem has_of_begins {q : Path} (h : node.Has place) (hq : q <+: place) : node.Has q := by
  obtain ⟨rest, rfl⟩ := hq
  unfold Has at *
  rw [get?_append] at h
  exact Option.isSome_of_isSome_bind h

structure Passable (tree : Node) (place : Path) : Prop where
  opened : tree.Open place
  has : tree.Has place

theorem Passable.assert (h : tree.Passable place) (hs : assert root tree s = .ok changed) : changed.Passable place where
  opened q name hq := by
    rw [value?_assert hs]
    cases hgiven : s.given? q name with
    | none => exact h.opened q name hq
    | some v =>
      -- the statement would give a value in place of a child
      have hfree := ((assert_ok_iff.1 hs).2.1.2 name v (eq_target_of_given? hgiven ▸ hgiven)).1
      rw [← eq_target_of_given? hgiven, find?_children_eq_none_iff] at hfree
      exact absurd (has_of_begins h.has hq) hfree
  has := (has_assert hs place).2 (.inl h.has)

theorem passable_target (hs : assert root tree s = .ok changed) (hgiven : ∀ q key, s.given? q key = none) :
    changed.Passable s.target where
  opened q name hq := by
    rw [value?_assert hs, hgiven, Option.none_or]
    exact (assert_ok_iff.1 hs).1 q name hq
  has := (has_assert hs _).2 (.inr (List.prefix_refl _))

theorem Passable.assertAll {statements : List Statement} (h : tree.Passable place)
    (hs : assertAll root statements tree = .ok changed) : changed.Passable place :=
  foldlM_keeps (P := (Passable · place)) (fun _ _ _ _ hr ha => Passable.assert hr ha) h hs

theorem assertAll_flatMap_error {α : Type} {P : Fault → Prop} {xs : List α} {f : α → List Statement}
    (hstep : ∀ x ∈ xs, ∀ tree fault, tree.Passable place → assertAll root (f x) tree = .error fault → P fault)
    (h : tree.Passable place) (hrun : assertAll root (xs.flatMap f) tree = .error fault) : P fault := by
  induction xs generalizing tree with
  | nil => cases hrun
  | cons x rest ih =>
    rw [List.flatMap_cons, Node.assertAll, List.foldlM_append] at hrun
    cases hx : Node.assertAll root (f x) tree with
    | error other =>
      have hfirst : Except.error other >>= _ = Except.error fault := (congrArg (· >>= _) hx.symm).trans hrun
      cases hfirst
      exact hstep x List.mem_cons_self tree fault h hx
    | ok next =>
      have hrest : Node.assertAll root (rest.flatMap f) next = .error fault :=
        (congrArg (· >>= Node.assertAll root (rest.flatMap f)) hx.symm).trans hrun
      exact ih (fun y hy => hstep y (List.mem_cons_of_mem _ hy)) (h.assertAll hx) hrest

theorem metadata_fault (h : tree.Passable place) (hmeta : Content.IsMetadata key value)
    (hs : assertAll root (ofMember limit place label key value) tree = .error fault) :
    MergeFault limit label fault := by
  rw [ofMember_metadata hmeta, assertAll_cons] at hs
  cases ha : assert root tree (.metadata place label key value) with
  | ok next =>
    rw [ha] at hs
    cases hs
  | error other =>
    rw [ha] at hs
    cases hs
    rw [assert, h.opened.alter_eq] at ha
    exact annotate_fault limit (map_eq_error ha)

theorem child_fault {name : String} (h : tree.Passable place)
    (hs : assert root tree (.child place label name) = .error fault) :
    fault = .inconsistent (label ++ "." ++ name) .childOverMetadata := by
  rw [assert, h.opened.alter_eq] at hs
  rcases alter_cases .ok (fun _ => .inconsistent (label ++ "." ++ name) .childOverMetadata) [.field name]
    (tree.nodeAt place) with ⟨_, _, -, halter⟩ | ⟨-, halter⟩
  · rw [halter] at hs
    cases hs
    rfl
  · rw [halter] at hs
    cases hs

theorem ofMember_fault (h : tree.Passable place)
    (hs : assertAll root (ofMember limit place label key value) tree = .error fault) :
    MergeFault limit label fault := by
  induction value using Json.induction generalizing place label key tree fault with
  | object below ih =>
    rcases isMetadata_or key (.object below) with hmeta | ⟨hfree, -⟩
    · exact metadata_fault h hmeta hs
    · rw [ofMember_inline hfree] at hs
      split at hs
      · cases hs
        exact .deep key
      · rw [assertAll_cons] at hs
        cases ha : assert root tree (.child place label key) with
        | error other =>
          rw [ha] at hs
          cases hs
          rw [child_fault h ha]
          exact .conflict fun he => nomatch he
        | ok next =>
          rw [ha, ok_bind, ofMembers_eq_flatMap] at hs
          have hnext : next.Passable (place ++ [.field key]) := passable_target ha fun _ _ => rfl
          have hbelow : MergeFault limit (label ++ "." ++ key) fault :=
            assertAll_flatMap_error (fun m hm _ _ hr hrun => ih m hm hr hrun) hnext hs
          exact hbelow.of_child
  | null | bool _ | number _ | text _ | array _ => exact metadata_fault h (.inl rfl) hs

structure Plain (fault : Fault) : Prop where
  shallow : ∀ reported limit, fault ≠ .tooDeep reported limit
  clear : ∀ reported, fault ≠ .inconsistent reported .throughMetadata

theorem plain_malformed (path : String) (cause : PathFault) : Plain (.malformedPath path cause) where
  shallow _ _ he := nomatch he
  clear _ he := nomatch he

theorem plain_entryNotMapping (path : String) : Plain (.inconsistent path .entryNotMapping) where
  shallow _ _ he := nomatch he
  clear _ he := nomatch he

theorem ofEntry_deep (value : Json) (hparse : Path.parse path = .ok (.field root :: place))
    (hlimit : limit < place.length) :
    ofEntry root limit path value =
      [.refused (.tooDeep (Path.dotted (.field root :: place.take (limit + 1))) limit)] := by
  cases place with
  | nil => cases hlimit
  | cons step rest =>
    rw [ofEntry, hparse]
    dsimp only
    rw [if_neg (not_not_intro rfl), if_pos hlimit]
    rfl

theorem ofEntry_plain (hdeep : ∀ place, Path.parse path = .ok (.field root :: place) → place.length ≤ limit)
    (h : ofEntry root limit path value = [.refused fault]) : Plain fault := by
  unfold ofEntry at h
  split at h
  · rename_i hparse
    rcases Path.parse_cases path with ⟨_, hok⟩ | ⟨cause, herror⟩
    · rw [hok] at hparse
      cases hparse
    · rw [herror] at hparse
      cases hparse
      cases h
      exact plain_malformed path _
  · rename_i first step rest hparse
    dsimp only at h
    split at h
    · cases h
      exact plain_malformed path _
    · rename_i hroot
      obtain rfl : first = root := not_not.1 hroot
      rw [if_neg (Nat.not_lt.2 (hdeep _ hparse))] at h
      split at h
      · cases h
        exact plain_malformed path _
      · split at h
        · cases h
        · cases h
          exact plain_entryNotMapping path
  · cases h
    exact plain_malformed path _

theorem insertEntry_error (h : insertEntry root limit tree (path, value) = .error fault) :
    (∃ place, Path.parse path = .ok (.field root :: place) ∧ limit < place.length ∧
      fault = .tooDeep (Path.dotted (.field root :: place.take (limit + 1))) limit) ∨
    (∀ place, Path.parse path = .ok (.field root :: place) → place.length ≤ limit) ∧ Plain fault ∨
    ∃ place, Path.parse path = .ok (.field root :: place) ∧ place.length ≤ limit ∧
      ((∃ above name, tree.Blocked place above name ∧ fault = descendFault root (above ++ [.field name])) ∨
        MergeFault limit path fault) := by
  by_cases hdeep : ∃ place, Path.parse path = .ok (.field root :: place) ∧ limit < place.length
  · obtain ⟨place, hparse, hlimit⟩ := hdeep
    rw [insertEntry, ofEntry_deep value hparse hlimit] at h
    cases h
    exact .inl ⟨place, hparse, hlimit, rfl⟩
  · have hshort : ∀ place, Path.parse path = .ok (.field root :: place) → place.length ≤ limit :=
      fun place hparse => Nat.le_of_not_lt fun hlimit => hdeep ⟨place, hparse, hlimit⟩
    refine .inr ?_
    rw [insertEntry] at h
    rcases ofEntry_cases root limit path value with ⟨other, hc⟩ | ⟨place, members, rfl, hparse, hlimit, -, hc⟩
    · dsimp only at h
      rw [hc] at h
      cases h
      exact .inl ⟨hshort, ofEntry_plain hshort hc⟩
    · refine .inr ⟨place, hparse, hlimit, ?_⟩
      dsimp only at h
      rw [hc, assertAll_cons] at h
      -- the way to the place can be blocked, and only behind it the members can be at fault
      cases ha : assert root tree (.nodes place) with
      | error other =>
        rw [ha] at h
        cases h
        rcases alter_cases .ok (descendFault root) place tree with ⟨above, name, hblocked, halter⟩ | ⟨-, halter⟩
        · rw [assert, halter] at ha
          cases ha
          exact .inl ⟨above, name, hblocked, rfl⟩
        · rw [assert, halter] at ha
          cases ha
      | ok next =>
        rw [ha, ok_bind, ofMembers_eq_flatMap] at h
        have hnext : next.Passable place := passable_target ha fun _ _ => rfl
        exact .inr (assertAll_flatMap_error (fun m _ _ _ hr hrun => ofMember_fault hr hrun) hnext h)

theorem foldlM_error {α : Type} {f : Node → α → Except Fault Node} {xs : List α}
    (h : xs.foldlM f tree = .error fault) : ∃ before x after next, xs = before ++ x :: after ∧
      before.foldlM f tree = .ok next ∧ f next x = .error fault := by
  induction xs generalizing tree with
  | nil => cases h
  | cons x rest ih =>
    rw [List.foldlM_cons] at h
    cases hx : f tree x with
    | error other =>
      rw [hx] at h
      cases h
      exact ⟨[], x, rest, tree, rfl, rfl, hx⟩
    | ok next =>
      rw [hx, ok_bind] at h
      obtain ⟨before, y, after, last, hrest, hbefore, hy⟩ := ih h
      refine ⟨x :: before, y, after, last, by rw [hrest, List.cons_append], ?_, hy⟩
      rw [List.foldlM_cons, hx]
      exact hbefore

/-- With `bound` the first number beyond a machine word, which no path has that many steps, all that is taken of the
paths is in range, whatever the limit. The first entry that cannot be inserted is reported by a beginning of its path:
one step beyond the limit, or up to the name of the metadata value in the way. -/
theorem assemble_reports (hword : ∀ e ∈ entries, ∀ components, Path.parse e.1 = .ok components →
    components.length < bound) :
    insertAll? bound root limit entries empty = some (assemble root limit entries) ∧
    ∀ fault, assemble root limit entries = .error fault → ∃ before path value after tree,
      entries = before ++ (path, value) :: after ∧ assemble root limit before = .ok tree ∧
      insertEntry root limit tree (path, value) = .error fault ∧
      (∀ place, Path.parse path = .ok (.field root :: place) → limit < place.length → ∃ reported,
        fault = .tooDeep reported limit ∧ Path.Cut reported path ∧
        Path.parse reported = .ok (.field root :: place.take (limit + 1)) ∧
        (place.take (limit + 1)).length = limit + 1) ∧
      (∀ reported, fault = .inconsistent reported .throughMetadata → ∃ place above name,
        Path.parse path = .ok (.field root :: place) ∧ above ++ [.field name] <+: place ∧
        (tree.value? above name).isSome ∧ Path.Cut reported path ∧
        Path.parse reported = .ok (.field root :: (above ++ [.field name]))) ∧
      ∀ reported deepest, fault = .tooDeep reported deepest → deepest = limit ∧ ∃ place,
        Path.parse path = .ok (.field root :: place) ∧
        (limit < place.length ∨ ∃ below, reported = path ++ "." ++ below) := by
  refine ⟨by rw [insertAll?_eq hword, assemble_eq_foldlM], fun fault h => ?_⟩
  rw [assemble_eq_foldlM] at h
  obtain ⟨before, ⟨path, value⟩, after, tree, hentries, hbefore, hinsert⟩ := foldlM_error h
  rw [← assemble_eq_foldlM] at hbefore
  refine ⟨before, path, value, after, tree, hentries, hbefore, hinsert, fun place hparse hlimit => ?_,
    fun reported hfault => ?_, fun reported deepest hfault => ?_⟩
  · rw [insertEntry, ofEntry_deep value hparse hlimit] at hinsert
    cases hinsert
    have hbegins : .field root :: place.take (limit + 1) <+: .field root :: place :=
      List.cons_prefix_cons.2 ⟨rfl, List.take_prefix _ _⟩
    obtain ⟨hcut, hread⟩ := Path.cut_of_begins hparse hbegins (List.cons_ne_nil _ _)
    exact ⟨_, rfl, hcut, hread, List.length_take_of_le hlimit⟩
  · subst hfault
    rcases insertEntry_error hinsert with ⟨_, -, -, hfault⟩ | ⟨-, hplain⟩ | ⟨place, hparse, -, hblocked | hmerge⟩
    · cases hfault
    · exact absurd rfl (hplain.clear reported)
    · obtain ⟨above, name, hblocked, hfault⟩ := hblocked
      cases hfault
      have hbegins : .field root :: (above ++ [.field name]) <+: .field root :: place :=
        List.cons_prefix_cons.2 ⟨rfl, hblocked.onPath⟩
      obtain ⟨hcut, hread⟩ := Path.cut_of_begins hparse hbegins (List.cons_ne_nil _ _)
      exact ⟨place, above, name, hparse, hblocked.onPath, hblocked.value, hcut, hread⟩
    · cases hmerge with
      | conflict hne => exact absurd rfl hne
  · subst hfault
    rcases insertEntry_error hinsert with
      ⟨place, hparse, hlimit, hfault⟩ | ⟨-, hplain⟩ | ⟨place, hparse, -, hblocked | hmerge⟩
    · cases hfault
      exact ⟨rfl, place, hparse, .inl hlimit⟩
    · exact absurd rfl (hplain.shallow reported deepest)
    · obtain ⟨_, _, -, hfault⟩ := hblocked
      cases hfault
    · cases hmerge with
      | deep below => exact ⟨rfl, place, hparse, .inr ⟨below, rfl⟩⟩

theorem assemble_reports_marker :
    let entries := [("g.a", Json.object [("units", .text "m")]), ("g.a.units[:]", .object [])]
    let largest := UInt64.size - 1
    (∀ e ∈ entries, ∀ components, Path.parse e.1 = .ok components → components.length < UInt64.size) ∧
      assemble "g" largest entries = .error (.inconsistent "g.a.units" .throughMetadata) ∧
      insertAll? UInt64.size "g" largest entries empty = some (assemble "g" largest entries) ∧
      (∃ before path value after place above name, entries = before ++ (path, value) :: after ∧
        Path.parse path = .ok (.field "g" :: place) ∧ above ++ [.field name] <+: place ∧
        Path.Cut "g.a.units" path ∧ Path.parse "g.a.units" = .ok (.field "g" :: (above ++ [.field name]))) ∧
      assemble "g" 1 entries = .error (.tooDeep "g.a.units" 1) ∧
      insertAll? UInt64.size "g" 1 entries empty = some (assemble "g" 1 entries) := by
  intro entries largest
  have hword : ∀ e ∈ entries, ∀ components, Path.parse e.1 = .ok components → components.length < UInt64.size := by
    have hfirst : Path.parse "g.a" = .ok [.field "g", .field "a"] := by cbv
    have hsecond : Path.parse "g.a.units[:]" = .ok [.field "g", .field "a", .field "units", .items] := by cbv
    refine List.forall_mem_cons.2 ⟨fun components h => ?_, List.forall_mem_singleton.2 fun components h => ?_⟩
    · cases hfirst.symm.trans h
      decide
    · cases hsecond.symm.trans h
      decide
  have hmetadata : assemble "g" largest entries = .error (.inconsistent "g.a.units" .throughMetadata) := by cbv
  have hall := @assemble_reports "g" largest UInt64.size entries hword
  obtain ⟨before, path, value, after, tree, hentries, -, -, -, hreport, -⟩ := hall.2 _ hmetadata
  obtain ⟨place, above, name, hparse, hbegins, -, hcut, hread⟩ := hreport "g.a.units" rfl
  exact ⟨hword, hmetadata, hall.1,
    ⟨before, path, value, after, place, above, name, hentries, hparse, hbegins, hcut, hread⟩, by cbv,
    (assemble_reports hword).1⟩

end Node

end DottedSchema
