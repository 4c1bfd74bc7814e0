import DottedSchema.Classes.Module
import Mathlib.Data.List.Basic
import Mathlib.Data.List.TakeWhile

/-!
# Docstrings as literals

A reader of the text between three double quotes takes every backslash together with the character behind it, and
stops at the first three double quotes in a row outside of such pairs (`literal?`). An escaped text has no such
quotes in it, so it ends where it was meant to (`literal?_escaped`), and it says what the text says
(`unescape?_escaped`). Hence each docstring in a written module ends at the quotes that are written behind it
(`docstring_literal`).
-/
set_option autoImplicit false

namespace DottedSchema.Text

def quotes : List Char := ['"', '"', '"']

/-- The body of a literal behind its opening quotes, and what follows its closing quotes. -/
def literal? : List Char → Option (List Char × List Char)
  | '\\' :: c :: rest => (literal? rest).map fun found => ('\\' :: c :: found.1, found.2)
  | '"' :: '"' :: '"' :: rest => some ([], rest)
  | c :: rest => (literal? rest).map fun found => (c :: found.1, found.2)
  | [] => none

/-- The text that a body stands for, if it has no other escapes than those of a backslash and of a double quote. -/
def unescape? : List Char → Option (List Char)
  | [] => some []
  | '\\' :: c :: rest => if c = '\\' ∨ c = '"' then (unescape? rest).map (c :: ·) else none
  | c :: rest => if c = '\\' then none else (unescape? rest).map (c :: ·)

def substitute (c : Char) (replacement text : List Char) : List Char :=
  text.flatMap fun d => if d = c then replacement else [d]

structure Trimmed (text inner : List Char) : Prop where
  blanks : ∃ before after, text = before ++ inner ++ after ∧ ∀ c ∈ before ++ after, isBlank c = true
  first : ∀ c, inner.head? = some c → isBlank c = false
  last : ∀ c, inner.getLast? = some c → isBlank c = false

variable {c : Char} {s t text rest : List Char}

theorem head?_dropWhile (h : (text.dropWhile isBlank).head? = some c) : isBlank c = false := by
  have hhead := List.head?_dropWhile_not isBlank text
  rw [h] at hhead
  exact hhead

theorem trimmed_trim (text : List Char) : Trimmed text (trim text) := by
  let inner := text.dropWhile isBlank
  have hinner : inner = trim text ++ (inner.reverse.takeWhile isBlank).reverse := by
    rw [trim, ← List.reverse_append, List.takeWhile_append_dropWhile, List.reverse_reverse]
  refine ⟨⟨text.takeWhile isBlank, (inner.reverse.takeWhile isBlank).reverse, ?_, fun c hc => ?_⟩, fun c hc => ?_,
    fun c hc => ?_⟩
  · rw [List.append_assoc, ← hinner, List.takeWhile_append_dropWhile]
  · rcases List.mem_append.1 hc with hc | hc
    · exact List.mem_takeWhile_imp hc
    · exact List.mem_takeWhile_imp (List.mem_reverse.1 hc)
  · have hfirst : inner.head? = some c := by
      rw [hinner, List.head?_append, hc]
      rfl
    exact head?_dropWhile hfirst
  · rw [trim, List.getLast?_reverse] at hc
    exact head?_dropWhile hc

/-- Backslashes are doubled first, so that those which are put before double quotes stay as they are. -/
theorem docstring_eq_substitute (text : List Char) :
    docstring text = substitute '"' ['\\', '"'] (substitute '\\' ['\\', '\\'] (trim text)) := by
  rw [docstring, substitute, substitute, List.flatMap_assoc]
  refine List.flatMap_congr fun c _ => ?_
  by_cases hslash : c = '\\'
  · subst hslash
    rfl
  · by_cases hquote : c = '"'
    · subst hquote
      rfl
    · have hplain : ¬ (c = '\\' ∨ c = '"') := fun h => h.elim hslash hquote
      rw [escapeQuoted, if_neg hplain, if_neg hslash, List.flatMap_singleton, if_neg hquote]

theorem literal?_cons (hslash : c ≠ '\\') (hquote : c ≠ '"') :
    literal? (c :: rest) = (literal? rest).map fun found => (c :: found.1, found.2) := by
  rw [literal?]
  · exact fun _ _ he _ => hslash he
  · exact fun _ he _ => hquote he

theorem unescape?_cons (h : c ≠ '\\') : unescape? (c :: rest) = (unescape? rest).map (c :: ·) := by
  rw [unescape?, if_neg h]
  exact fun _ _ he _ => h he

theorem literal?_escaped (text rest : List Char) :
    literal? (text.flatMap escapeQuoted ++ quotes ++ rest) = some (text.flatMap escapeQuoted, rest) := by
  induction text with
  | nil => rfl
  | cons c text ih =>
    rw [List.flatMap_cons, List.append_assoc, List.append_assoc, ← List.append_assoc _ quotes]
    by_cases hc : c = '\\' ∨ c = '"'
    · have hpair : escapeQuoted c = ['\\', c] := if_pos hc
      rw [hpair, List.cons_append, List.singleton_append, literal?, ih]
      rfl
    · have hplain : escapeQuoted c = [c] := if_neg hc
      obtain ⟨hslash, hquote⟩ := not_or.1 hc
      rw [hplain, List.singleton_append, literal?_cons hslash hquote, ih]
      rfl

theorem unescape?_escaped (text : List Char) : unescape? (text.flatMap escapeQuoted) = some text := by
  induction text with
  | nil => rfl
  | cons c text ih =>
    rw [List.flatMap_cons]
    by_cases hc : c = '\\' ∨ c = '"'
    · have hpair : escapeQuoted c = ['\\', c] := if_pos hc
      rw [hpair, List.cons_append, List.singleton_append, unescape?, if_pos hc, ih]
      rfl
    · have hplain : escapeQuoted c = [c] := if_neg hc
      rw [hplain, List.singleton_append, unescape?_cons (not_or.1 hc).1, ih]
      rfl

theorem docstring_inj : docstring s = docstring t ↔ trim s = trim t := by
  constructor
  · intro h
    have hs := unescape?_escaped (trim s)
    change unescape? (docstring s) = _ at hs
    rw [h] at hs
    exact Option.some.inj (hs.symm.trans (unescape?_escaped (trim t)))
  · intro h
    rw [docstring, docstring, h]

theorem docstring_ne_nil (h : trim text ≠ []) : docstring text ≠ [] := by
  intro hnil
  have hread := unescape?_escaped (trim text)
  change unescape? (docstring text) = _ at hread
  rw [hnil] at hread
  exact h (Option.some.inj hread).symm

end DottedSchema.Text

namespace DottedSchema

open Text

theorem ClassModule.docstring?_eq_some {description d : String} (h : docstring? description = some d) :
    d.toList = docstring description.toList ∧ d ≠ "" := by
  unfold docstring? at h
  split at h
  · cases h
  · rename_i htrim
    cases h
    refine ⟨String.toList_ofList, fun hempty => docstring_ne_nil htrim ?_⟩
    rw [← String.toList_ofList (l := docstring description.toList), hempty]
    rfl

namespace ClassFormat

open ClassModule

def heading (format : ClassFormat) (name : String) : String :=
  String.join ((["", ""] ++ format.classLines name).map (· ++ "\n"))

variable {c : ModuleClass} {m : ClassModule} {d : String}

theorem join_linesOf (format : ClassFormat) (h : c.docstring = some d) (hd : d ≠ "") : ∃ attributes,
    String.join ((format.linesOf c).map (· ++ "\n")) =
      format.heading c.name ++ "    \"\"\"" ++ d ++ "\"\"\"\n" ++ attributes := by
  have hline : docstringLines c.docstring = ["    \"\"\"" ++ d ++ "\"\"\""] := by
    rw [h, docstringLines, if_neg hd]
  refine ⟨String.join ((if c.attributes = [] then ["    pass"] else c.attributes.map (format.attributeLine ·)).map
    (· ++ "\n")), ?_⟩
  rw [linesOf, hline, List.map_append, List.map_append, String.join_append, String.join_append, heading]
  simp [String.append_assoc]

theorem render_class (format : ClassFormat) (hc : c ∈ m.classes) : ∃ before after,
    format.render m = before ++ String.join ((format.linesOf c).map (· ++ "\n")) ++ after := by
  obtain ⟨former, later, hclasses⟩ := List.append_of_mem hc
  refine ⟨String.join ((format.headLines m.root ++ former.flatMap format.linesOf).map (· ++ "\n")),
    String.join ((later.flatMap format.linesOf).map (· ++ "\n")), ?_⟩
  rw [render, hclasses, List.flatMap_append, List.flatMap_cons, ← List.append_assoc, ← List.append_assoc,
    List.map_append, List.map_append, String.join_append, String.join_append]

/-- A docstring is read back as the text without the blanks at its ends, whatever follows its closing quotes. So two
texts have one docstring only if they differ in such blanks, and in a written module every docstring ends at the
quotes that its line ends with. -/
theorem docstring_literal :
    (∀ text, docstring text = substitute '"' ['\\', '"'] (substitute '\\' ['\\', '\\'] (trim text)) ∧
      Trimmed text (trim text) ∧ unescape? (docstring text) = some (trim text) ∧
      ∀ rest, literal? (docstring text ++ quotes ++ rest) = some (docstring text, rest)) ∧
    (∀ s t, docstring s = docstring t ↔ trim s = trim t) ∧
    ∀ (format : ClassFormat) (root : String) (classes : List ClassDef) (c : ClassDef) (d : String), c ∈ classes →
      (ofClass c).docstring = some d → (∃ description, c.description = some description ∧
        d.toList = docstring description.toList) ∧ ∃ before after,
          format.render (ofClasses root classes) =
            before ++ format.heading c.name ++ "    \"\"\"" ++ d ++ "\"\"\"\n" ++ after ∧
          literal? (d ++ "\"\"\"\n" ++ after).toList = some (d.toList, '\n' :: after.toList) := by
  refine ⟨fun text => ⟨docstring_eq_substitute text, trimmed_trim text, unescape?_escaped _, literal?_escaped _⟩,
    fun s t => docstring_inj, fun format root classes c d hc hd => ?_⟩
  obtain ⟨description, hdescription, hsome⟩ := Option.bind_eq_some_iff.1 hd
  obtain ⟨htext, hne⟩ := docstring?_eq_some hsome
  have hmem : ofClass c ∈ (ofClasses root classes).classes := List.mem_map_of_mem (List.mem_reverse.2 hc)
  obtain ⟨before, after, hrender⟩ := format.render_class hmem
  obtain ⟨attributes, hlines⟩ := format.join_linesOf hd hne
  refine ⟨⟨description, hdescription, htext⟩, before, attributes ++ after, ?_, ?_⟩
  · rw [hrender, hlines]
    simp [String.append_assoc, ofClass]
  · have hclosed := literal?_escaped (trim description.toList) ('\n' :: (attributes ++ after).toList)
    rw [String.toList_append, String.toList_append, htext]
    exact (congrArg literal? (by simp [quotes, docstring])).trans hclosed

theorem docstring_literal_quotes :
    let c : ClassDef := ⟨"a", "A", some " \\\"\"\" ", []⟩
    let d := "\\\\\\\"\\\"\\\""
    c ∈ [c] ∧ (ofClass c).docstring = some d ∧ ∃ before after,
      dataclasses.render (ofClasses "g" [c]) =
        before ++ dataclasses.heading c.name ++ "    \"\"\"" ++ d ++ "\"\"\"\n" ++ after ∧
      literal? (d ++ "\"\"\"\n" ++ after).toList = some (d.toList, '\n' :: after.toList) := by
  intro c d
  have hc : c ∈ [c] := List.mem_cons_self
  have hd : (ofClass c).docstring = some d := rfl
  have hread := docstring_literal.2.2 dataclasses "g" [c] c d hc hd
  exact ⟨hc, hd, hread.2⟩

end ClassFormat

end DottedSchema
