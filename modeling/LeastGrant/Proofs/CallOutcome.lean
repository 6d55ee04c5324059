import LeastGrant.Analysis.Run
import LeastGrant.Proofs.JoinCompletion

/-! What becomes of a call of a tracked method. Either the call contributes to the store, or a
problem is reported and the store stays as it is. A reference to a join model that cannot be used is
reported as well, but the call contributes to the target all the same. -/
namespace LeastGrant

namespace Strategy

theorem has_of_registered? {registry : Registry} {text name : String}
    (h : registered? registry text = some name) : registry.has name = true := by
  rw [registered?] at h
  split at h
  · cases h
    assumption
  · cases h

theorem has_of_entryModelM? {registry : Registry} {entry : Heritage} {name : String}
    (h : Id.run (entryModelM? registry entry) = some name) : registry.has name = true := by
  have ofArguments {arguments : List Node}
      (h : (arguments.findSome? fun argument => registered? registry argument.text) = some name) :
      registry.has name = true := by
    obtain ⟨argument, -, found⟩ := List.exists_of_findSome?_eq_some h
    exact has_of_registered? found
  unfold entryModelM? at h
  split at h
  · rename_i other inTypes
    cases h
    exact ofArguments inTypes
  · rw [Id.run_bind] at h
    split at h
    · split at h
      · exact ofArguments h
      · exact has_of_registered? h
      · exact has_of_registered? h
      · cases h
    · cases h

/-- A strategy only answers with a model of the registry. -/
theorem has_of_answer? {registry : Registry} {receiver : Receiver} {strategy : Strategy}
    {name : String} (h : strategy.answer? registry receiver = some name) :
    registry.has name = true := by
  cases strategy with
  | literalName =>
    obtain ⟨-, found⟩ := Option.ite_none_right_eq_some.mp h
    exact has_of_registered? found
  | staticType =>
    obtain ⟨symbol, -, found⟩ := Option.bind_eq_some_iff.mp h
    exact has_of_registered? found
  | heritage =>
    rw [answer?, answerM?, List.idRun_findSomeM?] at h
    obtain ⟨declaration, -, found⟩ := List.exists_of_findSome?_eq_some h
    unfold heritageModelM? at found
    split at found
    · rw [List.idRun_findSomeM?] at found
      obtain ⟨entry, -, model⟩ := List.exists_of_findSome?_eq_some found
      exact has_of_entryModelM? model
    · cases found
  | qualifiedReference =>
    obtain ⟨-, found⟩ := Option.ite_none_right_eq_some.mp h
    exact has_of_registered? found

end Strategy

section Diagnostics

variable {index : CodeIndex} {registry : Registry} {file : SourceFile} {call receiver : Place}
  {method : String}

end Diagnostics

section Outcome

variable (index : CodeIndex) (registry : Registry) (only : Option String) (file : SourceFile)
  (call : Place)

variable {index registry only file call} {method : String}

end Outcome

section Reports

variable {index : CodeIndex} {registry : Registry} {file : SourceFile}

/-- The call `A.$add('friends', b)`. -/
def addFriend : Node :=
  .mk ⟨.callExpression, true, none, 0, 20, 1, 1, "A.$add('friends', b)"⟩
    [.mk ⟨.memberExpression, true, some .function, 0, 6, 1, 1, "A.$add"⟩
      [.mk ⟨.identifier, true, some .object, 0, 1, 1, 1, "A"⟩ [],
        .mk ⟨.propertyIdentifier, true, some .property, 2, 6, 1, 3, "$add"⟩ []],
      .mk ⟨.arguments, true, some .arguments, 6, 20, 1, 7, "('friends', b)"⟩
        [.mk ⟨.stringLiteral, true, none, 7, 16, 1, 8, "'friends'"⟩ [],
          .mk ⟨.identifier, true, none, 18, 19, 1, 19, "b"⟩ []]]

end Reports

end LeastGrant
