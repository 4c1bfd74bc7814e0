import DottedSchema.Path
import Mathlib.Data.List.Chain

/-!
# Reading and writing dotted paths

A text is read as a path exactly when it is one or more segments joined by dots (`parse_ok_iff`), and writing the
path gives the text back (`dotted_of_parse`). The paths that are read are those that begin with a field, have no
items step after another one, and have proper names (`Canonical`, `parse_dotted`); texts and such paths correspond one
to one (`parse_exact`).
-/
set_option autoImplicit false

namespace DottedSchema

def Step.Follows (first second : Step) : Prop := second = .items → first ≠ .items

namespace Path

variable {path rest : Path} {label name : String}

/-- No items step begins the path or follows an items step. -/
def Spaced (path : Path) : Prop := List.IsChain Step.Follows (.items :: path)

theorem spaced_nil : Spaced [] := List.isChain_singleton _

theorem Spaced.chain (h : Spaced path) : List.IsChain Step.Follows path := (List.isChain_cons.1 h).2

theorem spaced_of_chain (h : List.IsChain Step.Follows path) (hfirst : path.head? ≠ some .items) :
    Spaced path := by
  refine List.isChain_cons.2 ⟨fun s hs he => ?_, h⟩
  exact absurd (he ▸ hs) hfirst

theorem spaced_cons_field : Spaced (.field name :: rest) ↔ List.IsChain Step.Follows rest := by
  constructor
  · exact fun h => (List.isChain_cons.1 h.chain).2
  · intro h
    exact spaced_of_chain (List.isChain_cons.2 ⟨fun _ _ _ he => (nomatch he), h⟩) fun he => nomatch he

theorem Spaced.concat (h : Spaced path) (name : String) : Spaced (path ++ [.field name]) := by
  unfold Spaced at *
  rw [← List.cons_append]
  refine List.IsChain.append h (List.isChain_singleton _) ?_
  intro first _ second hsecond he
  rw [List.head?_cons, Option.mem_some_iff] at hsecond
  rw [← hsecond] at he
  cases he

theorem Spaced.initial {q : Path} (h : Spaced path) (hp : q <+: path) : Spaced q :=
  List.IsChain.prefix h (List.cons_prefix_cons.2 ⟨rfl, hp⟩)

structure IsName (name : String) : Prop where
  ne_empty : name ≠ ""
  no_dot : '.' ∉ name.toList
  no_open : '[' ∉ name.toList
  no_close : ']' ∉ name.toList

structure Segment where
  name : String
  marked : Bool

namespace Segment

def text (s : Segment) : List Char := s.name.toList ++ if s.marked then marker else []

def steps (s : Segment) : Path := .field s.name :: if s.marked then [.items] else []

end Segment

theorem segments_eq_splitOn (cs : List Char) : segments cs = cs.splitOn '.' := by
  induction cs with
  | nil => rfl
  | cons c cs ih =>
    rw [segments, ih, List.splitOn_cons_eq_if_modifyHead]
    simp only [beq_iff_eq]
    split
    · rfl
    · cases hs : cs.splitOn '.' with
      | nil => exact absurd hs (List.splitOn_ne_nil _ _)
      | cons s rest => rfl

theorem stripMarker_marked (cs : List Char) : stripMarker (cs ++ marker) = (cs, true) := by
  have hsuffix : marker.isSuffixOf (cs ++ marker) = true := List.isSuffixOf_iff_suffix.2 (List.suffix_append _ _)
  have hlength : (cs ++ marker).length - 3 = cs.length := by simp [marker]
  rw [stripMarker, if_pos hsuffix, hlength, List.take_left]

theorem stripMarker_bare {cs : List Char} (h : ¬ marker <:+ cs) : stripMarker cs = (cs, false) := by
  rw [stripMarker, if_neg (fun hs => h (List.isSuffixOf_iff_suffix.1 hs))]

theorem stripMarker_text (s : Segment) (h : IsName s.name) : stripMarker s.text = (s.name.toList, s.marked) := by
  obtain ⟨name, marked⟩ := s
  cases marked with
  | true => exact stripMarker_marked name.toList
  | false =>
    change stripMarker (name.toList ++ []) = _
    rw [List.append_nil]
    refine stripMarker_bare fun hs => h.no_open (hs.subset ?_)
    exact List.mem_cons_self

theorem exists_text (cs : List Char) : ∃ s : Segment, cs = s.text ∧ stripMarker cs = (s.name.toList, s.marked) := by
  by_cases h : marker <:+ cs
  · obtain ⟨name, rfl⟩ := h
    exact ⟨⟨String.ofList name, true⟩, by simp [Segment.text], by simp [stripMarker_marked]⟩
  · exact ⟨⟨String.ofList cs, false⟩, by simp [Segment.text], by simp [stripMarker_bare h]⟩

theorem segmentSteps_ok_iff {cs : List Char} (hdot : '.' ∉ cs) :
    segmentSteps cs = .ok path ↔ ∃ s : Segment, IsName s.name ∧ cs = s.text ∧ path = s.steps := by
  constructor
  · intro h
    obtain ⟨s, rfl, hstrip⟩ := exists_text cs
    unfold segmentSteps at h
    rw [hstrip] at h
    dsimp only at h
    split at h
    · cases h
    · rename_i hne
      split at h
      · cases h
      · rename_i hbrackets
        cases h
        simp only [Bool.or_eq_true, List.contains_iff_mem, not_or] at hbrackets
        refine ⟨s, ⟨fun he => hne (by rw [he]; rfl), fun hm => hdot (List.mem_append_left _ hm), hbrackets.1,
          hbrackets.2⟩, rfl, ?_⟩
        rw [Segment.steps, String.ofList_toList]
  · rintro ⟨s, hname, rfl, rfl⟩
    unfold segmentSteps
    rw [stripMarker_text s hname]
    have hne : s.name.toList ≠ [] := fun he => hname.ne_empty (String.toList_eq_nil_iff.1 he)
    dsimp only
    rw [if_neg hne, if_neg (by simp [hname.no_open, hname.no_close]), Segment.steps, String.ofList_toList]

theorem ofSegments_cons_ok_iff {cs : List Char} {css : List (List Char)} : ofSegments (cs :: css) = .ok path ↔
    ∃ steps rest, segmentSteps cs = .ok steps ∧ ofSegments css = .ok rest ∧ path = steps ++ rest := by
  rw [ofSegments]
  cases segmentSteps cs with
  | error fault => exact ⟨fun h => (nomatch h), fun ⟨_, _, h, _⟩ => (nomatch h)⟩
  | ok steps =>
    cases ofSegments css with
    | error fault => exact ⟨fun h => (nomatch h), fun ⟨_, _, _, h, _⟩ => (nomatch h)⟩
    | ok rest =>
      constructor
      · intro h
        cases h
        exact ⟨steps, rest, rfl, rfl, rfl⟩
      · rintro ⟨_, _, h, h', rfl⟩
        cases h
        cases h'
        rfl

theorem ofSegments_ok_iff {css : List (List Char)} (hdot : ∀ cs ∈ css, '.' ∉ cs) :
    ofSegments css = .ok path ↔
      ∃ ss : List Segment, (∀ s ∈ ss, IsName s.name) ∧ css = ss.map (·.text) ∧ path = ss.flatMap (·.steps) := by
  induction css generalizing path with
  | nil =>
    constructor
    · intro h
      cases h
      exact ⟨[], fun _ h => (nomatch h), rfl, rfl⟩
    · rintro ⟨ss, -, hss, rfl⟩
      rw [List.map_eq_nil_iff.1 hss.symm]
      rfl
  | cons cs css ih =>
    obtain ⟨hfirst, hrest⟩ := List.forall_mem_cons.1 hdot
    simp only [ofSegments_cons_ok_iff, segmentSteps_ok_iff hfirst, ih hrest]
    constructor
    · rintro ⟨_, _, ⟨s, hs, rfl, rfl⟩, ⟨ss, hss, rfl, rfl⟩, rfl⟩
      exact ⟨s :: ss, List.forall_mem_cons.2 ⟨hs, hss⟩, rfl, rfl⟩
    · rintro ⟨_ | ⟨s, ss⟩, hss, hmap, rfl⟩
      · cases hmap
      · obtain ⟨hs, hss⟩ := List.forall_mem_cons.1 hss
        cases hmap
        exact ⟨_, _, ⟨s, hs, rfl, rfl⟩, ⟨ss, hss, rfl, rfl⟩, rfl⟩

/-- A path is read from its segments joined by dots, and from nothing else. -/
theorem parse_ok_iff : parse label = .ok path ↔ ∃ ss : List Segment, ss ≠ [] ∧ (∀ s ∈ ss, IsName s.name) ∧
    label.toList = ['.'].intercalate (ss.map (·.text)) ∧ path = ss.flatMap (·.steps) := by
  have hdot : ∀ cs ∈ segments label.toList, '.' ∉ cs := fun _ h => dot_not_mem_of_mem_segments h
  have hparse : parse label = .ok path ↔ ofSegments (segments label.toList) = .ok path := by
    unfold parse
    cases ofSegments (segments label.toList) <;> simp [Except.mapError]
  rw [hparse, ofSegments_ok_iff hdot]
  constructor
  · rintro ⟨ss, hss, htext, rfl⟩
    refine ⟨ss, ?_, hss, ?_, rfl⟩
    · rintro rfl
      exact segments_ne_nil _ htext
    · rw [← htext, intercalate_segments]
  · rintro ⟨ss, hne, hss, htext, rfl⟩
    refine ⟨ss, hss, ?_, rfl⟩
    rw [htext, segments_eq_splitOn, List.splitOn_intercalate]
    · intro cs hcs
      obtain ⟨s, hs, rfl⟩ := List.mem_map.1 hcs
      have hmarker : '.' ∉ (if s.marked then marker else []) := by cases s.marked <;> decide
      exact fun hm => (List.mem_append.1 hm).elim (hss s hs).no_dot hmarker
    · exact fun he => hne (List.map_eq_nil_iff.1 he)

theorem append_field (h : label ≠ "") (name : String) : append label (.field name) = label ++ "." ++ name := by
  rw [append, if_neg h]

theorem ne_empty_of_extends {longer : String} (h : label ≠ "") (hp : label.toList <+: longer.toList) :
    longer ≠ "" := by
  rintro rfl
  exact h (String.toList_eq_nil_iff.1 (List.prefix_nil.1 hp))

theorem append_begins (label : String) (step : Step) : label.toList <+: (append label step).toList := by
  cases step with
  | items =>
    rw [append, String.toList_append]
    exact List.prefix_append _ _
  | field name =>
    rw [append]
    split
    · rename_i h
      rw [h]
      exact List.nil_prefix
    · rw [String.toList_append, String.toList_append, List.append_assoc]
      exact List.prefix_append _ _

theorem foldl_append_begins (steps : Path) (label : String) :
    label.toList <+: (steps.foldl append label).toList := by
  induction steps generalizing label with
  | nil => exact List.prefix_refl _
  | cons step rest ih => exact (append_begins label step).trans (ih _)

theorem append_ne_empty (h : label ≠ "") (step : Step) : append label step ≠ "" :=
  ne_empty_of_extends h (append_begins label step)

theorem foldl_append_ne_empty (h : label ≠ "") (steps : Path) : steps.foldl append label ≠ "" :=
  ne_empty_of_extends h (foldl_append_begins steps label)

theorem dotted_append (p q : Path) : dotted (p ++ q) = q.foldl append (dotted p) := List.foldl_append

theorem dotted_begins {q : Path} (h : q <+: path) : (dotted q).toList <+: (dotted path).toList := by
  obtain ⟨rest, rfl⟩ := h
  rw [dotted_append]
  exact foldl_append_begins rest _

theorem dotted_concat_field (h : dotted path ≠ "") (name : String) :
    dotted (path ++ [.field name]) = dotted path ++ "." ++ name := by
  rw [dotted_append]
  exact append_field h name

theorem foldl_append_steps (h : label ≠ "") (s : Segment) :
    (s.steps.foldl append label).toList = label.toList ++ '.' :: s.text := by
  obtain ⟨name, marked⟩ := s
  cases marked <;> simp [Segment.steps, Segment.text, append, marker, h]

theorem foldl_append_segments (h : label ≠ "") (ss : List Segment) :
    ((ss.flatMap (·.steps)).foldl append label).toList = label.toList ++ ss.flatMap fun s => '.' :: s.text := by
  induction ss generalizing label with
  | nil => simp
  | cons s ss ih =>
    rw [List.flatMap_cons, List.foldl_append, ih (foldl_append_ne_empty h _), foldl_append_steps h, List.flatMap_cons,
      List.append_assoc]

theorem intercalate_text (s : Segment) (ss : List Segment) :
    ['.'].intercalate ((s :: ss).map (·.text)) = s.text ++ ss.flatMap fun s => '.' :: s.text := by
  induction ss generalizing s with
  | nil => simp
  | cons t ss ih =>
    rw [List.map_cons, List.map_cons, List.intercalate_cons_cons, ← List.map_cons, ih, List.flatMap_cons]
    simp

theorem dotted_steps (s : Segment) (h : s.name ≠ "") : (dotted s.steps).toList = s.text ∧ dotted s.steps ≠ "" := by
  obtain ⟨name, marked⟩ := s
  cases marked <;> simp [Segment.steps, Segment.text, dotted, append, marker, h]

theorem toList_dotted {ss : List Segment} (hne : ss ≠ []) (h : ∀ s ∈ ss, IsName s.name) :
    (dotted (ss.flatMap (·.steps))).toList = ['.'].intercalate (ss.map (·.text)) := by
  cases ss with
  | nil => exact absurd rfl hne
  | cons s ss =>
    obtain ⟨hfirst, hnonempty⟩ := dotted_steps s (h s List.mem_cons_self).ne_empty
    rw [List.flatMap_cons, dotted_append, foldl_append_segments hnonempty, hfirst, intercalate_text]

theorem dotted_of_parse (h : parse label = .ok path) : dotted path = label := by
  obtain ⟨ss, hne, hss, htext, rfl⟩ := parse_ok_iff.1 h
  exact String.toList_injective ((toList_dotted hne hss).trans htext.symm)

/-- No items step begins the path or follows an items step, and the names are such as can be read. -/
structure Canonical (path : Path) : Prop where
  spaced : Spaced path
  names : ∀ name, .field name ∈ path → IsName name

theorem Canonical.initial {q : Path} (h : Canonical path) (hp : q <+: path) : Canonical q where
  spaced := h.spaced.initial hp
  names name hm := h.names name (hp.subset hm)

theorem Canonical.concat (h : Canonical path) (hname : IsName name) : Canonical (path ++ [.field name]) where
  spaced := h.spaced.concat name
  names other hm := by
    rcases List.mem_append.1 hm with hm | hm
    · exact h.names other hm
    · cases List.mem_singleton.1 hm
      exact hname

theorem Segment.spaced_append (s : Segment) (h : Spaced rest) : Spaced (s.steps ++ rest) := by
  obtain ⟨name, marked⟩ := s
  refine spaced_cons_field.2 ?_
  cases marked with
  | true => exact h
  | false => exact h.chain

theorem spaced_flatMap_steps (ss : List Segment) : Spaced (ss.flatMap (·.steps)) := by
  induction ss with
  | nil => exact spaced_nil
  | cons s ss ih => exact s.spaced_append ih

theorem Segment.field_mem {s : Segment} (h : .field name ∈ s.steps) : name = s.name := by
  obtain ⟨_, marked⟩ := s
  cases marked <;> simpa [steps] using h

theorem canonical_of_parse (h : parse label = .ok path) : Canonical path := by
  obtain ⟨ss, -, hss, -, rfl⟩ := parse_ok_iff.1 h
  refine ⟨spaced_flatMap_steps ss, fun name hm => ?_⟩
  obtain ⟨s, hs, hm⟩ := List.mem_flatMap.1 hm
  rw [Segment.field_mem hm]
  exact hss s hs

/-- Each field of a canonical path begins a segment, to which an items step behind it belongs. -/
theorem exists_segments : ∀ {path : Path}, Canonical path →
    ∃ ss : List Segment, (∀ s ∈ ss, IsName s.name) ∧ path = ss.flatMap (·.steps)
  | [], _ => ⟨[], fun _ h => (nomatch h), rfl⟩
  | .items :: _, h => absurd rfl ((List.isChain_cons.1 h.spaced).1 _ rfl rfl)
  | .field name :: .items :: rest, h => by
    have hrest : Canonical rest :=
      ⟨spaced_cons_field.1 h.spaced, fun other hm => h.names other (List.mem_cons_of_mem _ (List.mem_cons_of_mem _ hm))⟩
    obtain ⟨ss, hss, hpath⟩ := exists_segments hrest
    refine ⟨⟨name, true⟩ :: ss, List.forall_mem_cons.2 ⟨h.names name List.mem_cons_self, hss⟩, ?_⟩
    rw [hpath]
    rfl
  | [.field name], h => ⟨[⟨name, false⟩], by simpa using h.names name List.mem_cons_self, rfl⟩
  | .field name :: .field other :: rest, h => by
    have hrest : Canonical (.field other :: rest) :=
      ⟨spaced_of_chain (spaced_cons_field.1 h.spaced) (fun he => nomatch he),
        fun _ hm => h.names _ (List.mem_cons_of_mem _ hm)⟩
    obtain ⟨ss, hss, hpath⟩ := exists_segments hrest
    refine ⟨⟨name, false⟩ :: ss, List.forall_mem_cons.2 ⟨h.names name List.mem_cons_self, hss⟩, ?_⟩
    rw [hpath]
    rfl

theorem parse_dotted (h : Canonical path) (hne : path ≠ []) : parse (dotted path) = .ok path := by
  obtain ⟨ss, hss, rfl⟩ := exists_segments h
  have hsegments : ss ≠ [] := by
    rintro rfl
    exact hne rfl
  exact parse_ok_iff.2 ⟨ss, hsegments, hss, toList_dotted hsegments hss, rfl⟩

theorem dotted_ne_empty (h : Canonical path) (hne : path ≠ []) : dotted path ≠ "" := by
  intro he
  have hparse := parse_dotted h hne
  rw [he] at hparse
  cases hparse

theorem dotted_injective {q : Path} (hp : Canonical path) (hq : Canonical q) (hne : path ≠ []) (hne' : q ≠ [])
    (h : dotted path = dotted q) : path = q := by
  have hread := parse_dotted hp hne
  rw [h, parse_dotted hq hne'] at hread
  exact (Except.ok.inj hread).symm

theorem parse_child (h : parse label = .ok path) (hne : path ≠ []) (hname : IsName name) :
    parse (label ++ "." ++ name) = .ok (path ++ [.field name]) := by
  have hcanonical := canonical_of_parse h
  have hlabel := dotted_concat_field (dotted_ne_empty hcanonical hne) name
  rw [dotted_of_parse h] at hlabel
  rw [← hlabel]
  exact parse_dotted (hcanonical.concat hname) (List.append_ne_nil_of_right_ne_nil _ (List.cons_ne_nil _ _))

structure Proper (path : Path) : Prop where
  first : ∃ name, path.head? = some (.field name)
  apart : ¬ [.items, .items] <:+: path
  names : ∀ name, .field name ∈ path → IsName name

theorem isChain_follows_iff : List.IsChain Step.Follows path ↔ ¬ [.items, .items] <:+: path := by
  induction path with
  | nil => simp
  | cons first rest ih =>
    cases rest with
    | nil => simp [List.infix_cons_iff, List.cons_prefix_cons]
    | cons second rest =>
      have hinfix : [Step.items, .items] <:+: first :: second :: rest ↔
          (first = .items ∧ second = .items) ∨ [Step.items, .items] <:+: second :: rest := by
        rw [List.infix_cons_iff, List.cons_prefix_cons, List.cons_prefix_cons, eq_comm, @eq_comm _ Step.items]
        simp only [List.nil_prefix, and_true]
      have hfollows : first.Follows second ↔ ¬ (first = .items ∧ second = .items) :=
        ⟨fun h hboth => h hboth.2 hboth.1, fun h hsecond hfirst => h ⟨hfirst, hsecond⟩⟩
      rw [List.isChain_cons_cons, ih, hinfix, hfollows, not_or]

theorem proper_iff : Proper path ↔ Canonical path ∧ path ≠ [] := by
  constructor
  · rintro ⟨⟨name, hfirst⟩, hapart, hnames⟩
    refine ⟨⟨spaced_of_chain (isChain_follows_iff.2 hapart) ?_, hnames⟩, ?_⟩
    · rw [hfirst]
      exact fun he => nomatch he
    · rintro rfl
      cases hfirst
  · rintro ⟨⟨hspaced, hnames⟩, hne⟩
    refine ⟨?_, isChain_follows_iff.1 hspaced.chain, hnames⟩
    obtain ⟨first, rest, rfl⟩ := List.exists_cons_of_ne_nil hne
    cases first with
    | field name => exact ⟨name, rfl⟩
    | items => exact absurd rfl ((List.isChain_cons_cons.1 hspaced).1 rfl)

theorem parse_eq_ok_iff : parse label = .ok path ↔ Proper path ∧ dotted path = label := by
  rw [proper_iff]
  constructor
  · intro h
    refine ⟨⟨canonical_of_parse h, ?_⟩, dotted_of_parse h⟩
    rintro rfl
    obtain ⟨ss, hne, -, -, hpath⟩ := parse_ok_iff.1 h
    obtain ⟨s, ss, rfl⟩ := List.exists_cons_of_ne_nil hne
    cases hpath
  · rintro ⟨⟨hcanonical, hne⟩, rfl⟩
    exact parse_dotted hcanonical hne

theorem parse_cases (label : String) : (∃ path, parse label = .ok path) ∨
    ∃ cause, parse label = .error (.malformedPath label cause) := by
  unfold parse
  cases ofSegments (segments label.toList) with
  | ok path => exact .inl ⟨path, rfl⟩
  | error cause => exact .inr ⟨cause, rfl⟩

/-- The texts that are read are those of one or more segments joined by dots; they correspond one to one to the proper
paths, and every other text is reported as a malformed path. -/
theorem parse_exact (label : String) :
    ((∃ path, parse label = .ok path) ↔ ∃ ss : List Segment, ss ≠ [] ∧ (∀ s ∈ ss, IsName s.name) ∧
      label.toList = ['.'].intercalate (ss.map (·.text))) ∧
    (∀ path, parse label = .ok path ↔ Proper path ∧ dotted path = label) ∧
    ((∃ path, parse label = .ok path) ∨
      ∃ fault, parse label = .error fault ∧ fault.code = "malformed_path" ∧ fault.path = label) := by
  refine ⟨?_, fun path => parse_eq_ok_iff, ?_⟩
  · simp only [parse_ok_iff]
    constructor
    · rintro ⟨_, ss, hne, hnames, htext, -⟩
      exact ⟨ss, hne, hnames, htext⟩
    · rintro ⟨ss, hne, hnames, htext⟩
      exact ⟨_, ss, hne, hnames, htext, rfl⟩
  · rcases parse_cases label with hread | ⟨cause, hfault⟩
    · exact .inl hread
    · exact .inr ⟨_, hfault, rfl, rfl⟩

/-- Only one marker belongs to a segment. -/
example : parse "a[:][:].b" = .error (.malformedPath "a[:][:].b" (.misplacedMarker "a[:][:]")) := by cbv

end Path

end DottedSchema
