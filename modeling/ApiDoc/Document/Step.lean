/-
This file defines the steps of the correction as things that can be done one by one, in any order and
any number of times.
-/
import ApiDoc.Document.Correction

namespace ApiDoc.Document

/-- The document with every operation changed. -/
def mapOperations (change : Operation → Operation) (document : Document) : Document :=
  document.mapItems fun _ item => item.mapOperations change

/-- A step of the correction, or all of it. -/
inductive Step where
  | renameTableTemplates
  | addMissingParameters
  | correctMethods
  | addAccept
  | addFormats
  | addBasicAuth
  | setServers (servers : List (Dict Json))
  | correct (servers : List (Dict Json))
  deriving DecidableEq, Repr

namespace Step

/-- The document after the step. -/
def apply : Step → Document → Document
  | renameTableTemplates => Document.renameTableTemplates
  | addMissingParameters => Document.addMissingParameters
  | correctMethods => Document.correctMethods
  | addAccept => mapOperations Operation.addAccept
  | addFormats => mapOperations Operation.addFormats
  | addBasicAuth => Document.addBasicAuth
  | setServers servers => Document.setServers servers
  | correct servers => Document.correct servers

/-- The step asks for basic authentication. -/
def secures : Step → Bool
  | addBasicAuth | correct _ => true
  | _ => false

end Step

/-- The document after steps, one after the other. -/
def afterSteps (document : Document) (steps : List Step) : Document :=
  steps.foldl (fun current step => step.apply current) document

end ApiDoc.Document
