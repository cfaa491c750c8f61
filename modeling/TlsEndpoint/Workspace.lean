import TlsEndpoint.Resolution
import TlsEndpoint.Script

/-! # Settings and workspaces

Settings own a configuration and the context that was resolved from it when they were created. The
context is never resolved again. Equality is that of the configurations; whether two settings hand
out the very same engine is told by the stamp of their creation, which clones keep. -/
namespace TlsEndpoint

structure Settings (ι τ : Type) where
  configuration : Configuration ι τ
  context : Context
  stamp : Nat

namespace Settings

variable {ι τ : Type}

def create (platform : Platform) (sources : Sources ι τ) (config : Configuration ι τ)
    (stamp : Nat) : Settings ι τ × Resolution :=
  let resolution := resolve platform sources config
  (⟨config, resolution.context, stamp⟩, resolution)

def equal [BEq ι] [BEq τ] (a b : Settings ι τ) : Bool := a.configuration.equal b.configuration

instance [BEq ι] [BEq τ] : BEq (Settings ι τ) := ⟨equal⟩

def sameMaterial [BEq ι] [BEq τ] (a b : Settings ι τ) : Bool :=
  a.configuration.sameMaterial (some b.configuration)

/-- Whether both hand out the same object, given what each hands out. Two that hand out none do. -/
def sameObject {α : Type} (a b : Settings ι τ) (part : Context → Option α) : Bool :=
  match part a.context, part b.context with
  | none, none => true
  | some _, some _ => a.stamp == b.stamp
  | _, _ => false

def sameClient (a b : Settings ι τ) : Bool := sameObject a b Context.client

def sameServer (a b : Settings ι τ) : Bool := sameObject a b Context.server

def sameOutcome (a b : Settings ι τ) : Bool := a.context.outcome == b.context.outcome

end Settings

/-! ## Workspaces

A workspace has files and named settings. Settings are created by resolving a configuration against
the files as they are then; whatever happens to the files afterwards does not reach them. -/

abbrev NamedSettings := Settings IdentitySource TrustSource

structure Workspace where
  files : FileSystem
  machine : Machine
  bound : List (String × NamedSettings)
  created : Nat

namespace Workspace

def start (machine : Machine) : Workspace := ⟨FileSystem.initial, machine, [], 0⟩

def find? (w : Workspace) (name : String) : Option NamedSettings := w.bound.lookup name

def bind (w : Workspace) (name : String) (s : NamedSettings) : Workspace :=
  { w with bound := (name, s) :: w.bound.filter fun e => e.1 != name }

def resolve (w : Workspace) (choice : PlatformChoice)
    (config : Configuration IdentitySource TrustSource) : Resolution :=
  TlsEndpoint.resolve (choice.platform w.files w.machine) (Sources.ofFiles w.files w.machine) config

inductive Operation where
  | create (name : String) (choice : PlatformChoice)
      (config : Configuration IdentitySource TrustSource)
  | clone (source target : String)
  | inspect (name : String)
  | compare (a b : String)
  | write (path : Path) (content : Bytes)
  | makeDirectory (path : Path)
  | remove (path : Path)

structure Comparison where
  equal : Bool
  swapped : Bool
  sameMaterial : Bool
  sameClient : Bool
  sameServer : Bool
  sameOutcome : Bool
  deriving DecidableEq, Repr

def comparison (a b : NamedSettings) : Comparison :=
  ⟨a.equal b, b.equal a, a.sameMaterial b, a.sameClient b, a.sameServer b, a.sameOutcome b⟩

inductive Answer where
  | resolved (resolution : Resolution)
  | settings (s : NamedSettings)
  | compared (c : Comparison)
  | written
  | removed (any : Bool)
  | noSuchSettings

def create (w : Workspace) (name : String) (choice : PlatformChoice)
    (config : Configuration IdentitySource TrustSource) : Workspace × Answer :=
  let (s, resolution) :=
    Settings.create (choice.platform w.files w.machine) (Sources.ofFiles w.files w.machine) config
      w.created
  ({ w.bind name s with created := w.created + 1 }, .resolved resolution)

def clone (w : Workspace) (source target : String) : Workspace × Answer :=
  match w.find? source with
  | none => (w, .noSuchSettings)
  | some s => (w.bind target s, .compared (comparison s s))

def compare (w : Workspace) (a b : String) : Answer :=
  match w.find? a, w.find? b with
  | some s, some t => .compared (comparison s t)
  | _, _ => .noSuchSettings

def apply (w : Workspace) : Operation → Workspace × Answer
  | .create name choice config => w.create name choice config
  | .clone source target => w.clone source target
  | .inspect name =>
    match w.find? name with
    | none => (w, .noSuchSettings)
    | some s => (w, .settings s)
  | .compare a b => (w, w.compare a b)
  | .write path content => ({ w with files := w.files.write path content }, .written)
  | .makeDirectory path => ({ w with files := w.files.makeDirectory path }, .written)
  | .remove path =>
    let (files, any) := w.files.remove path
    ({ w with files := files }, .removed any)

def run (w : Workspace) : List Operation → Workspace × List Answer
  | [] => (w, [])
  | o :: os =>
    let (w, a) := w.apply o
    let (w, as) := w.run os
    (w, a :: as)

end Workspace

end TlsEndpoint
