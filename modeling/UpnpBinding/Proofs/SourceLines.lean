import UpnpBinding.Definition.ModuleSource
/-!
Where the texts of a service description stand in the source of a client module. Names, types,
paths and the allowed values in the state-variable table are written as literals, but the
comments of a request field write its allowed values as they are, after the comment marker. A
line break in an allowed value ends that comment: the text after it is a line of the module.
-/
namespace UpnpBinding

namespace Text

theorem joinWith_eq_intercalate (sep : String) : ∀ lines, joinWith sep lines = sep.intercalate lines
  | [] => String.intercalate_nil.symm
  | [_] => String.intercalate_singleton.symm
  | x :: y :: rest => by
    show x ++ sep ++ joinWith sep (y :: rest) = _
    rw [joinWith_eq_intercalate sep (y :: rest), String.intercalate_cons_cons]

theorem intercalate_cons_append_sep (sep l : String) (q : List String) :
    ∃ post, sep.intercalate (l :: q) ++ sep = l ++ sep ++ post := by
  cases q with
  | nil => exact ⟨"", by rw [String.intercalate_singleton, String.append_empty]⟩
  | cons y q =>
    refine ⟨sep.intercalate (y :: q) ++ sep, ?_⟩
    rw [String.intercalate_cons_cons]
    simp only [String.append_assoc]

theorem joinWith_line {sep l : String} (first : String) {rest : List String} (hl : l ∈ rest) :
    ∃ pre post, joinWith sep (first :: rest) ++ sep = pre ++ sep ++ l ++ sep ++ post := by
  obtain ⟨p, q, rfl⟩ := List.append_of_mem hl
  obtain ⟨post, hpost⟩ := intercalate_cons_append_sep sep l q
  refine ⟨sep.intercalate (first :: p), post, ?_⟩
  rw [joinWith_eq_intercalate, ← List.cons_append,
    String.intercalate_append_of_ne_nil (List.cons_ne_nil _ _) (List.cons_ne_nil _ _),
    String.append_assoc, hpost]
  simp only [String.append_assoc]

end Text

namespace ModuleSource

theorem allowedValue_mem_requestClass {a : ActionDefinition} {f : Field} {v : String}
    (hf : f ∈ a.inFields) (hv : v ∈ f.stateVariable.allowedValues) :
    indent ++ "# Allowed Value: " ++ v ∈ requestClass a := by
  unfold requestClass
  simp only [List.mem_append, List.mem_flatMap]
  refine .inl (.inr ⟨f, hf, .inl (List.mem_map.mpr ⟨"# Allowed Value: " ++ v, ?_, ?_⟩)⟩)
  · unfold allowedComments
    exact List.mem_append_right _ (List.mem_map.mpr ⟨v, hv, rfl⟩)
  · rw [String.append_assoc]

end ModuleSource

theorem requestClass_line {d : ServiceDefinition} {a : ActionDefinition} (ha : a ∈ d.actions)
    {l : String} (hl : l ∈ ModuleSource.requestClass a) :
    ∃ pre post, d.moduleSource = pre ++ "\n" ++ l ++ "\n" ++ post := by
  have hclasses : l ∈ d.actions.flatMap fun a => ["", ""] ++ ModuleSource.requestClass a ++
      ["", ""] ++ ModuleSource.responseClass a :=
    List.mem_flatMap.mpr ⟨a, ha, List.mem_append_left _ (List.mem_append_left _
      (List.mem_append_right _ hl))⟩
  unfold ServiceDefinition.moduleSource
  refine Text.joinWith_line "# -*- coding: utf-8 -*-" ?_
  simp only [List.append_eq, List.mem_append, hclasses, or_true, true_or]

theorem allowedValue_line {d : ServiceDefinition} {a : ActionDefinition} {f : Field} {v : String}
    (ha : a ∈ d.actions) (hf : f ∈ a.inFields) (hv : v ∈ f.stateVariable.allowedValues) :
    ∃ pre post, d.moduleSource =
      pre ++ "\n" ++ (ModuleSource.indent ++ "# Allowed Value: " ++ v) ++ "\n" ++ post :=
  requestClass_line ha (ModuleSource.allowedValue_mem_requestClass hf hv)

/-- The text after a line break in an allowed value of a request field is a whole line of the
module, outside any comment. -/
theorem allowedValue_tail_is_line {d : ServiceDefinition} {a : ActionDefinition} {f : Field}
    {u w : String} (ha : a ∈ d.actions) (hf : f ∈ a.inFields)
    (hv : u ++ "\n" ++ w ∈ f.stateVariable.allowedValues) :
    ∃ pre post, d.moduleSource = pre ++ "\n" ++ w ++ "\n" ++ post := by
  obtain ⟨pre, post, h⟩ := allowedValue_line ha hf hv
  refine ⟨pre ++ "\n" ++ ModuleSource.indent ++ "# Allowed Value: " ++ u, post, ?_⟩
  rw [h]
  simp only [String.append_assoc]

def injectedVariable : StateVariable :=
  ⟨"V0", "string", false, false, none, none, ["x\nimport os"]⟩

def injectedField : Field := ⟨"A", injectedVariable, .string⟩

def injectedAction : ActionDefinition :=
  ⟨"Echo", [injectedField], [],
    ⟨"EchoArgs", ["A", "xmlns"], [("xmlns", .text "urn:schemas-upnp-org:service:Echo:1")]⟩,
    ⟨"EchoResponse", [], []⟩⟩

def injectedEcho : ServiceDefinition :=
  ⟨"Echo", "urn:schemas-upnp-org:service:Echo:1", "/Control", "/Event", [injectedAction], []⟩

theorem injectedEcho_imports : injectedAction ∈ injectedEcho.actions ∧
    injectedField ∈ injectedAction.inFields ∧
    "x" ++ "\n" ++ "import os" ∈ injectedField.stateVariable.allowedValues ∧
    ∃ pre post, injectedEcho.moduleSource = pre ++ "\n" ++ "import os" ++ "\n" ++ post :=
  have ha : injectedAction ∈ injectedEcho.actions := List.mem_singleton_self _
  have hf : injectedField ∈ injectedAction.inFields := List.mem_singleton_self _
  have hv : "x" ++ "\n" ++ "import os" ∈ injectedField.stateVariable.allowedValues :=
    List.mem_singleton.mpr (by decide)
  ⟨ha, hf, hv, allowedValue_tail_is_line ha hf hv⟩

end UpnpBinding
