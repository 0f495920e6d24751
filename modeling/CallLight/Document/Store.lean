import CallLight.Document.Uri

/-!
# Open documents

The store holds the documents that the editor has open, each under the key of its URI.
-/

namespace CallLight

/-- A document as last seen. -/
structure Document where
  uri : Uri
  language : Text
  version : Int
  content : Text
deriving DecidableEq, Repr

/-- The open documents. At most one stands under a key. -/
structure Store where
  entries : List (Text × Document)

namespace Store

def empty : Store := ⟨[]⟩

/-- Looks up a key. -/
def lookup (s : Store) (key : Text) : Option Document := s.entries.lookup key

/-- Drops whatever stands under a key. -/
def eraseKey (s : Store) (key : Text) : Store := ⟨s.entries.filter (·.1 != key)⟩

/-- The document of a URI. -/
def get? (s : Store) (u : Uri) : Option Document := s.lookup u.key

/-- Stores a document under the key of its own URI. -/
def insert (s : Store) (d : Document) : Store :=
  ⟨(d.uri.key, d) :: (s.eraseKey d.uri.key).entries⟩

/-- Forgets the document of a URI. -/
def erase (s : Store) (u : Uri) : Store := s.eraseKey u.key

/-- The keys in byte order. -/
def keys (s : Store) : List Text :=
  (s.entries.map (·.1)).mergeSort fun a b => !Text.lt b a

/-- Why an update fails: nothing is stored under the URI's key, or the change itself fails. -/
inductive UpdateError (ε : Type) where
  | notFound (uri : Uri)
  | failed (cause : ε)
deriving Repr

/-- What is said of a document that is not open. -/
def notFoundMessage (u : Uri) : String := "document not found: " ++ u.toStringLossy

/-- Replaces the document of a URI by the result of `f`; when `f` fails nothing changes. -/
def update {ε : Type} (s : Store) (u : Uri) (f : Document → Except ε Document) :
    Except (UpdateError ε) Store :=
  match s.get? u with
  | none => .error (.notFound u)
  | some d =>
    match f d with
    | .error e => .error (.failed e)
    | .ok d => .ok (s.insert d)

end Store

end CallLight
