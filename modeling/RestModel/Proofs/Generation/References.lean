import Mathlib.Data.List.Nodup
import RestModel.Proofs.Build.References
import RestModel.Proofs.Generation.Lawful
import RestModel.Proofs.Support.Check

/-! # The names that a generated model mentions

No name that a model mentions dangles, whichever builds failed on the way. -/

namespace RestModel

/-- The names of shared types that a model mentions: in the types of its resources, in
the shared types themselves and in the mentions of components. -/
def ClientModel.mentionedNames (model : ClientModel) : List String :=
  (model.resources.flatMap fun resource => resource.types.flatMap (·.body.names)) ++
    model.types.flatMap (·.names) ++ model.mentions.map (·.typeName)

namespace Generator

/-- The types of a closed state are listed by the keys under which they are registered. -/
theorem names_values {state : BuildState} (closed : state.Closed) :
    (Keyed.values state.types).map (·.name) = Keyed.keys state.types := by
  unfold Keyed.values Keyed.keys
  rw [List.map_map]
  exact List.map_congr_left closed.named

/-- Every name that a model mentions is the name of exactly one of its shared types. -/
theorem generate_resolves_names {generator : Generator} {descriptors : List (String × Descriptor)}
    {model : ClientModel} (generated : generator.generate descriptors = .ok model) :
    ∀ name ∈ model.mentionedNames, (model.types.map (·.name)).count name = 1 := by
  rcases generate_lawful (fun _ => BuildLaw.references_holds _) BuildState.closed_empty
      generated with
    ⟨state, closed, idle, types, mentions, bodies⟩
  -- Nothing is being built at the end, so what is known is registered.
  have registered : ∀ name, state.knows name = true → name ∈ Keyed.keys state.types := by
    intro name known
    rcases BuildState.knows_eq_true_iff.mp known with registered | building
    · exact registered
    · rw [idle] at building
      contradiction
  have known : ∀ name ∈ model.mentionedNames, state.knows name = true := by
    intro name mentioned
    rcases List.mem_append.mp mentioned with ofType | ofMention
    · rcases List.mem_append.mp ofType with ofResource | ofShared
      · rcases List.mem_flatMap.mp ofResource with ⟨resource, isResource, ofResource⟩
        rcases List.mem_flatMap.mp ofResource with ⟨type, isType, ofBody⟩
        exact BuildLaw.references_body.mp (bodies resource isResource type isType) name ofBody
      · rw [types] at ofShared
        rcases List.mem_flatMap.mp ofShared with ⟨type, isType, ofType⟩
        rcases List.mem_map.mp isType with ⟨entry, isEntry, rfl⟩
        exact closed.types entry isEntry name ofType
    · rcases List.mem_map.mp ofMention with ⟨mention, isMention, rfl⟩
      rw [mentions] at isMention
      exact closed.mentions mention (List.mem_mergeSort.mp isMention)
  intro name mentioned
  rw [types, names_values closed]
  exact List.count_eq_one_of_mem closed.nodup (registered name (known name mentioned))

/-- Nodes mention themselves while their type is being built. -/
theorem generate_resolves_names_trees :
    ∃ model, generate ⟨treeService, .standard⟩ [("Tree", treeDescriptor)] = .ok model ∧
      model.mentionedNames = ["Node", "Node", "Node"] ∧
      ∀ name ∈ model.mentionedNames, (model.types.map (·.name)).count name = 1 := by
  have mentioned : (generate ⟨treeService, .standard⟩ [("Tree", treeDescriptor)]).toOption.map
      (·.mentionedNames) = some ["Node", "Node", "Node"] := by decide +kernel
  cases generated : generate ⟨treeService, .standard⟩ [("Tree", treeDescriptor)] with
  | error failure => simp [generated, Except.toOption] at mentioned
  | ok model =>
      rw [generated] at mentioned
      exact ⟨model, rfl, Option.some.inj mentioned, generate_resolves_names generated⟩

end Generator
end RestModel
