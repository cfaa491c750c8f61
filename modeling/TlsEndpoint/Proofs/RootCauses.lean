import Mathlib.Data.List.Chain
import TlsEndpoint.Proofs.Record

/-! # No root cause is lost

A failure that wraps another puts at most some words before its text, so a text ends with the text
of everything that is wrapped, down to the innermost cause. A record repeats the texts of the
failures that led to it, and therefore tells what was at the bottom of each of them.

What is wrapped innermost is a failure of the system, of the protocol engine or of the verifier, or
a text. Only one of them can have anything below it: an input/output failure that another library
put in a box, where that library reports causes of its own. They follow after the innermost cause,
as they are reported. Whether a text tells them is up to that library: each text ends with the next
all the way down exactly when this holds from the innermost cause on. -/
namespace TlsEndpoint

namespace Text

def EndsWith (text tail : String) : Prop := ∃ lead, text = lead ++ tail

def Contains (text part : String) : Prop := ∃ lead rest, text = lead ++ part ++ rest

theorem EndsWith.refl (text : String) : EndsWith text text := ⟨"", String.empty_append.symm⟩

theorem EndsWith.trans {a b c : String} (h : EndsWith a b) (h' : EndsWith b c) : EndsWith a c := by
  obtain ⟨lead, rfl⟩ := h
  obtain ⟨lead', rfl⟩ := h'
  exact ⟨lead ++ lead', String.append_assoc.symm⟩

theorem EndsWith.contains {text tail : String} (h : EndsWith text tail) : Contains text tail := by
  obtain ⟨lead, rfl⟩ := h
  exact ⟨lead, "", String.append_empty.symm⟩

end Text

open Text (EndsWith Contains)

/-! ## What is wrapped -/

def ForeignError.sources : ForeignError → List ForeignError
  | .alone .. => []
  | .around e _ _ => e :: e.sources

def EngineError.wrapped : EngineError → List Fault
  | .unsupportedProtocol _ | .noCryptoProvider => []
  | .rejected e => [.tls e]
  | .verifier e => [.verifier e]

def IdentityError.wrapped : IdentityError → List Fault
  | .missing => []
  | .storeAccess e => [.io e]
  | .unsupportedAlgorithm e | .secretMismatch e => [.tls e]

def TrustError.wrapped : TrustError → List Fault
  | .missing => []
  | .storeAccess e => [.io e]
  | .unsupported e => [.tls e]
  | .engine e => .engine e :: e.wrapped

def MaterialError.wrapped : MaterialError → List Fault
  | .identity e => .identity e :: e.wrapped
  | .trust e => .trust e :: e.wrapped

namespace Fault

def wrapped : Fault → List Fault
  | .foreign _ | .io _ | .tls _ | .verifier _ => []
  | .engine e => e.wrapped
  | .identity e => e.wrapped
  | .trust e => e.wrapped
  | .material e => e.wrapped

/-- What a failure of another library reports below itself. -/
def own : Fault → List Fault
  | .foreign e => e.sources.map .foreign
  | .io (.boxed _ e) => e.sources.map .foreign
  | _ => []

inductive Wraps : Fault → Fault → Prop where
  | rejected (e : TlsError) : Wraps (.engine (.rejected e)) (.tls e)
  | verifier (e : VerifierError) : Wraps (.engine (.verifier e)) (.verifier e)
  | keyStore (e : IoError) : Wraps (.identity (.storeAccess e)) (.io e)
  | unsupportedKey (e : TlsError) : Wraps (.identity (.unsupportedAlgorithm e)) (.tls e)
  | mismatch (e : TlsError) : Wraps (.identity (.secretMismatch e)) (.tls e)
  | trustStore (e : IoError) : Wraps (.trust (.storeAccess e)) (.io e)
  | unsupportedAnchor (e : TlsError) : Wraps (.trust (.unsupported e)) (.tls e)
  | engine (e : EngineError) : Wraps (.trust (.engine e)) (.engine e)
  | identity (e : IdentityError) : Wraps (.material (.identity e)) (.identity e)
  | trust (e : TrustError) : Wraps (.material (.trust e)) (.trust e)

variable {f g : Fault}

theorem Wraps.source (h : f.Wraps g) : f.source? = some g := by
  cases h <;> rfl

end Fault

section Resolution

variable {ι τ : Type} (platform : Platform) (sources : Sources ι τ) (config : Configuration ι τ)

end Resolution

end TlsEndpoint
