import PubSubTrials.Case
import PubSubTrials.Files.Path
import PubSubTrials.Output.Broadcast
import PubSubTrials.Parameters

/-!
# Deployments

How the applications of a run are started: by the executable of their role, perhaps through a
leading command such as one that binds them to a processor. The words after the executable are
the flag of the role and the words of the entity's parameters.
-/

namespace PubSubTrials

/-- A program to start and the words that it is given. -/
structure Invocation where
  program : String
  arguments : List String
  deriving DecidableEq, Repr, Inhabited

namespace Invocation

/-- The program with the words that it is given. -/
def words (invocation : Invocation) : List String :=
  invocation.program :: invocation.arguments

/-- The invocation as people read it. -/
def text (invocation : Invocation) : String :=
  " ".intercalate invocation.words

end Invocation

/-- The executables of both roles and how they are started. -/
structure Deployment where
  /-- Words in front of the executable. -/
  leading : List String
  publisher : Path
  subscriber : Path
  capture : Output.Capture
  deriving DecidableEq, Repr, Inhabited

namespace Deployment

/-- The executable of a role. -/
def executable (deployment : Deployment) : Role → Path
  | .publisher => deployment.publisher
  | .subscriber => deployment.subscriber

/-- The words that an executable is given. -/
def entityWords (role : Role) (parameters : String) : List String :=
  role.flag :: Parameters.words parameters

/-- All words by which an entity is started. -/
def commandLine (deployment : Deployment) (role : Role) (parameters : String) : List String :=
  deployment.leading ++ (deployment.executable role).text :: entityWords role parameters

/-- What is started for an entity: the first of the leading words or, if there are none, the
executable. -/
def invocation (deployment : Deployment) (role : Role) (parameters : String) : Invocation :=
  let executable := (deployment.executable role).text
  match deployment.leading with
  | [] => ⟨executable, entityWords role parameters⟩
  | program :: more => ⟨program, more ++ executable :: entityWords role parameters⟩

/-- What is started has the words of the command line. -/
theorem words_invocation (deployment : Deployment) (role : Role) (parameters : String) :
    (deployment.invocation role parameters).words = deployment.commandLine role parameters := by
  unfold invocation commandLine Invocation.words
  cases deployment.leading <;> rfl

end Deployment

end PubSubTrials
