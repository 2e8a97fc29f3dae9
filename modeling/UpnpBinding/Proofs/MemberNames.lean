import UpnpBinding.Proofs.SourceLines
/-!
The names a client module gives the members of its service class. Each action gets a call method
named after it, `async_` and its snake case; each evented field gets a property named by its
snake case. A member name that is already a member of the service class (one of its attributes
or methods, `mro`, or the `requester` and `on_event` set on each instance) takes `_value` at its
end, and the name that results is never such a member.

The check knows the class and these two public attributes only. The attributes that a binding
sets on each instance under a leading underscore pass it unchanged: an evented state variable
named `_definition` gives the service class a property `_definition`, which hides the
attribute of that name.
-/
namespace UpnpBinding

namespace ModuleSource

def privateAttributes : List String :=
  ["_definition", "_device_url", "_control_url", "_event_url", "_actions", "_evented_lock",
    "_evented_values"]

theorem value_suffix_not_mem : ∀ m ∈ classMembers, m ++ "_value" ∉ classMembers := by decide

theorem memberName_not_mem (name pre : String) : memberName name pre ∉ classMembers := by
  dsimp only [memberName]
  split
  · rename_i hmem
    exact value_suffix_not_mem _ (List.contains_iff_mem.mp hmem)
  · rename_i hmem
    exact fun h => hmem (List.contains_iff_mem.mpr h)

theorem memberName_private : ∀ p ∈ privateAttributes, memberName p "" = p := by
  decide +kernel

theorem method_mem_serviceClass {d : ServiceDefinition} {a : ActionDefinition}
    (ha : a ∈ d.actions) (name : String) :
    indent ++ "async def " ++ memberName a.name "async_" ++ "(" ∈ serviceClass d name := by
  unfold serviceClass
  refine List.mem_append_left _ (List.mem_append_right _ (List.mem_flatMap.mpr ⟨a, ha, ?_⟩))
  simp

theorem property_mem_serviceClass {d : ServiceDefinition} {f : Field} (hf : f ∈ d.evented)
    (name : String) :
    indent ++ "def " ++ memberName f.name "" ++ "(self) -> Optional[" ++ typeHint f ++ "]:" ∈
      serviceClass d name := by
  unfold serviceClass
  refine List.mem_append_right _ (List.mem_flatMap.mpr ⟨f, hf, ?_⟩)
  simp

end ModuleSource

theorem serviceClass_line (d : ServiceDefinition) {l : String}
    (hl : l ∈ ModuleSource.serviceClass d (ModuleSource.className d.serviceName ++ "Service")) :
    ∃ pre post, d.moduleSource = pre ++ "\n" ++ l ++ "\n" ++ post := by
  unfold ServiceDefinition.moduleSource
  refine Text.joinWith_line "# -*- coding: utf-8 -*-" ?_
  simp only [List.append_eq, List.mem_append, hl, or_true]

open ModuleSource in
/-- The methods and properties of a module's service class are named as its actions and evented
fields are, and never as a member the class already has; a private attribute that a binding sets
on each instance keeps its name as the name of a property. -/
theorem members_avoid_class_not_instance (d : ServiceDefinition) :
    (∀ a ∈ d.actions, (∃ pre post, d.moduleSource =
        pre ++ "\n" ++ (indent ++ "async def " ++ memberName a.name "async_" ++ "(") ++ "\n" ++
          post) ∧ memberName a.name "async_" ∉ classMembers) ∧
    (∀ f ∈ d.evented, (∃ pre post, d.moduleSource =
        pre ++ "\n" ++ (indent ++ "def " ++ memberName f.name "" ++ "(self) -> Optional[" ++
          typeHint f ++ "]:") ++ "\n" ++ post) ∧ memberName f.name "" ∉ classMembers ∧
        (f.name ∈ privateAttributes → memberName f.name "" = f.name)) := by
  refine ⟨fun a ha => ⟨serviceClass_line d (method_mem_serviceClass ha _), memberName_not_mem _ _⟩,
    fun f hf => ⟨serviceClass_line d (property_mem_serviceClass hf _), memberName_not_mem _ _,
      memberName_private f.name⟩⟩

def privateNamedVariable : StateVariable :=
  ⟨"_definition", "string", true, false, none, none, []⟩

def privateNamedField : Field := ⟨"_definition", privateNamedVariable, .string⟩

def privateNamedEcho : ServiceDefinition :=
  ⟨"Echo", "urn:schemas-upnp-org:service:Echo:1", "/Control", "/Event", [], [privateNamedField]⟩

/-- The module of `privateNamedEcho` gives its service class a property `_definition`, the name
of the attribute in which a binding keeps its definition. -/
theorem privateNamedEcho_hides_definition :
    privateNamedField ∈ privateNamedEcho.evented ∧
    "_definition" ∈ ModuleSource.privateAttributes ∧
    ∃ pre post, privateNamedEcho.moduleSource =
      pre ++ "\n" ++ "    def _definition(self) -> Optional[str]:" ++ "\n" ++ post := by
  have hf : privateNamedField ∈ privateNamedEcho.evented := List.mem_singleton_self _
  have hp : "_definition" ∈ ModuleSource.privateAttributes := by decide
  obtain ⟨⟨pre, post, hsrc⟩, -, hname⟩ :=
    (members_avoid_class_not_instance privateNamedEcho).2 privateNamedField hf
  refine ⟨hf, hp, pre, post, ?_⟩
  rw [hsrc, hname hp]
  rfl

end UpnpBinding
