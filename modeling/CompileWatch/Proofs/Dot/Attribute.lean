import CompileWatch.Proofs.Dot.Drawing
import CompileWatch.Proofs.Text.Sets

/-!
# Attributes that are set one after another

A drawing sets the attributes of a node in order, and a later decoration may override an
earlier one.  The list that results reflects the sets (`Assoc.Reflects`), and so does the
line of the node: a reader of lines finds the pairs of the last sets, in the order of the
first ones.
-/

namespace CompileWatch.Dot

variable {sets : List (String × Value)} {node : Node} {name : String}

/-- Reads the line of a node. -/
def Node.read? (text : String) : Option Node := do
  let tokens ← tokens? text.toList
  match ← statements? [] (tokens ++ [.mark '}']) with
  | [.node node] => some node
  | _ => none

/-- The line of a sound node is read as that node. -/
theorem Node.read?_render (hnode : node.Sound) : Node.read? node.render = some node := by
  have hsemicolon : .mark ';' ∉ node.tokens := by
    simpa [Node.tokens] using semicolon_notMem_attributes node.attributes
  have hstatements : statements? [] (closed node.tokens ++ [.mark '}']) = some [.node node] := by
    rw [statements?_closed hsemicolon, List.nil_append, ofTokens?_node]
    rfl
  simp [Node.read?, (lexes_nodeLine hnode).tokens?, hstatements]

/-- Attributes are there as soon as one is set. -/
theorem ofSets_eq_nil_iff : Assoc.ofSets sets = [] ↔ sets = [] := by
  have hreflects := Assoc.reflects_ofSets sets
  constructor
  · intro hempty
    refine List.eq_nil_iff_forall_not_mem.mpr fun set hset => ?_
    have hkey := hreflects.mem_keys_iff.mpr (List.mem_map_of_mem hset)
    rw [hempty] at hkey
    exact List.not_mem_nil hkey
  · rintro rfl
    rfl

/-- **Attributes keep their first places and take their last values.**  After any sequence of sets
the keys differ and are in the order of their first sets, each with the value of its last set; only
one list is like that.  What is found for a key is this value, and nothing is found for a key that
was never set.  The line of a node with these attributes lists just these pairs, in this order, and
if the format can express them they are read back from it. -/
theorem attributes_reflect_sets (sets : List (String × Value)) (name : String) :
    ((Assoc.ofSets sets).map Prod.fst).Nodup ∧
    (∀ attributes, attributes = Assoc.ofSets sets ↔ Assoc.Reflects sets attributes) ∧
    (∀ key value,
      Assoc.get? key (Assoc.ofSets sets) = some value ↔ Assoc.LastSet sets key value) ∧
    (∀ key, Assoc.get? key (Assoc.ofSets sets) = none ↔ key ∉ sets.map Prod.fst) ∧
    ({ name, attributes := Assoc.ofSets sets } : Node).render =
      "  \"" ++ name ++ "\"" ++
        (if sets = [] then ""
          else " [" ++ ",".intercalate ((Assoc.ofSets sets).map fun pair =>
            pair.1 ++ "=" ++ pair.2.render) ++ "]") ++ ";\n" ∧
    (IsPlain name → Attributes.Sound sets →
      Node.read? ({ name, attributes := Assoc.ofSets sets } : Node).render =
        some { name, attributes := Assoc.ofSets sets }) := by
  have hreflects := Assoc.reflects_ofSets sets
  refine ⟨hreflects.nodup, ?_, fun _ _ => hreflects.get?_eq_some_iff,
    fun _ => hreflects.get?_eq_none_iff, ?_, ?_⟩
  · intro attributes
    constructor
    · rintro rfl
      exact hreflects
    · exact hreflects.unique
  · simp only [Node.render, Attributes.render, ofSets_eq_nil_iff]
    rfl
  · intro hname hsets
    exact Node.read?_render ⟨hname, sound_ofSets hsets⟩

/-- The sets of a loop header that also ends in a jump back. -/
def sampleSets : List (String × Value) :=
  [("shape", .word "box"), ("color", .word "red"), ("color", .word "green"),
    ("class", .quoted "style-frame-0")]

/-- The second colour takes the place of the first. -/
theorem sampleSets_reflected :
    IsPlain "Block0" ∧ Attributes.Sound sampleSets ∧
      Assoc.get? "color" (Assoc.ofSets sampleSets) = some (.word "green") ∧
      Node.read? "  \"Block0\" [shape=box,color=green,class=\"style-frame-0\"];\n" =
        some { name := "Block0", attributes := [("shape", .word "box"), ("color", .word "green"),
          ("class", .quoted "style-frame-0")] } := by
  have hname : IsPlain "Block0" := by decide
  have hsets : Attributes.Sound sampleSets := by
    simp only [Attributes.Sound, sampleSets, List.forall_mem_cons]
    exact ⟨⟨by decide, sound_word (by decide)⟩, ⟨by decide, sound_word (by decide)⟩,
      ⟨by decide, sound_word (by decide)⟩, ⟨by decide, trivial⟩, by simp⟩
  obtain ⟨-, -, hget, -, -, hread⟩ := attributes_reflect_sets sampleSets "Block0"
  refine ⟨hname, hsets, ?_, hread hname hsets⟩
  exact (hget _ _).mpr ⟨sampleSets.take 2, sampleSets.drop 3, rfl, by decide⟩

end CompileWatch.Dot
