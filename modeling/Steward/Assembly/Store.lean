import Steward.Assembly.Stream

/-! The assemblies that a host serves itself. The first entry whose name is the wanted identity,
up to the case of ASCII letters, decides alone. -/

set_option autoImplicit false

namespace Steward.Assembly

structure Entry where
  name : String
  /-- The file of the image; without a path the entry cannot be loaded. -/
  image : String
  symbols : Option String := none
  deriving DecidableEq

/-- Which policy made the identity what it is. -/
inductive PolicyLevel where
  | none
  | application
  | publisher
  | administrator
  deriving DecidableEq

namespace PolicyLevel

def all : List PolicyLevel := [none, application, publisher, administrator]

def label : PolicyLevel → String
  | none => "None"
  | application => "App"
  | publisher => "Publisher"
  | administrator => "Admin"

end PolicyLevel

structure Request where
  domain : DomainId
  /-- The identity that the caller named. -/
  referenced : String
  /-- The identity after policy was applied. -/
  identity : String
  level : PolicyLevel := .none
  deriving DecidableEq

structure Provided where
  id : Nat
  context : Nat := 0
  image : Stream
  symbols : Option Stream
  deriving DecidableEq

structure Store where
  entries : List Entry
  deriving DecidableEq

/-- Two names that differ at most in the case of ASCII letters. -/
def sameName (first second : String) : Bool :=
  first.toList.map Char.toLower = second.toList.map Char.toLower

namespace Store

def names (store : Store) : List String := store.entries.map Entry.name

/-- The symbols of an entry, when they are named and can be opened. -/
def openSymbols (files : String → Option (List UInt8)) (entry : Entry) : Option Stream := do
  let path ← entry.symbols
  if path.isEmpty then none else (openFile files path).toOption

/-- Serve an assembly. An identity that an administrator redirected is not served. -/
def provide (store : Store) (files : String → Option (List UInt8)) (request : Request) :
    Except Error Provided :=
  let notFound : Error := .assemblyNotFound request.identity
  if request.level = .administrator then .error notFound
  else
    match store.entries.findIdx? fun entry => sameName entry.name request.identity with
    | none => .error notFound
    | some index =>
        match store.entries[index]? with
        | none => .error notFound
        | some entry =>
            if entry.image.isEmpty then .error notFound
            else
              match openFile files entry.image with
              | .error _ => .error notFound
              | .ok image => .ok ⟨index, 0, image, openSymbols files entry⟩

/-- Modules are never served. -/
def provideModule (name : String) : Except Error Stream := .error (.notFound (.other name))

end Store

/-- Identities that the runtime is to look for on its own: there are none. -/
def runtimeServed : List String := []

end Steward.Assembly
