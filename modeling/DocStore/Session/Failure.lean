import DocStore.Settings

/-!
# Failures

Why a command was not carried out. A failure is a message with the messages of what caused it, one below the other.
-/

namespace DocStore.Session

inductive Failure where
  | settings (error : SettingsError)
  | opening (path : String) (error : StoreError)
  | store (error : StoreError)
  /-- A text that should be an object, named for what it is given as. -/
  | badObject (what text : String) (error : Json.ReadError)
  | badRecords (text : String) (error : Json.ReadError)
  | notFound (id collection : String)

def storeMessages : StoreError → List String
  | .inaccessible path cause => [(StoreError.inaccessible path cause).message, cause.message]
  | error => [error.message]

def Failure.messages : Failure → List String
  | settings error => ["Failed to load config", error.message, error.cause]
  | opening path error => ("Failed to open database '" ++ path ++ "'") :: storeMessages error
  | store error => storeMessages error
  | badObject what text error => [what ++ " must be a JSON object, got: " ++ text, error.message]
  | badRecords text error => ["Records must be a JSON array of objects, got: " ++ text, error.message]
  | notFound id collection => ["Record '" ++ id ++ "' not found in collection '" ++ collection ++ "'"]

/-- A message whose first line starts with `first` and all others with `other`. -/
def indentLines (first other message : String) : String :=
  first ++ String.ofList (message.toList.flatMap fun c => if c = '\n' then '\n' :: other.toList else [c])

def numbered (n : Nat) (message : String) : String :=
  indentLines (String.ofList (List.replicate (5 - (toString n).length) ' ') ++ toString n ++ ": ") "       " message

def causeLines : List String → List String
  | [message] => [indentLines "    " "    " message]
  | messages => messages.mapIdx numbered

def Failure.text (failure : Failure) : String :=
  match failure.messages with
  | [] => ""
  | [message] => "Error: " ++ message ++ "\n"
  | message :: causes =>
    "Error: " ++ message ++ "\n\nCaused by:\n" ++ String.intercalate "\n" (causeLines causes) ++ "\n"

end DocStore.Session
