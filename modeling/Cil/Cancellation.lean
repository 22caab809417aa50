import Cil.Error

/-!
# Cancellation

A token is a handle on a request to stop. Copies of a token are the same handle, also when they are
passed on in the options of a rendering, so cancelling one cancels all of them and no other. A
holder is a caller who gets tokens in any of these ways and cancels some of them.
-/

namespace Cil

/-- A handle on one request to stop. -/
structure CancelToken where
  id : Nat
deriving DecidableEq, Repr

/-- The tokens handed out so far, numbered from zero, and the cancelled ones among them. -/
structure Cancellations where
  issued : Nat := 0
  cancelled : List CancelToken := []
deriving DecidableEq, Repr

namespace Cancellations

/-- Hands out a token that is none of those before. -/
def issue (state : Cancellations) : CancelToken × Cancellations :=
  (⟨state.issued⟩, { state with issued := state.issued + 1 })

def cancel (state : Cancellations) (token : CancelToken) : Cancellations :=
  { state with cancelled := token :: state.cancelled }

def isCancelled (state : Cancellations) (token : CancelToken) : Bool :=
  state.cancelled.contains token

/-- Fails once the token was cancelled. -/
def check (state : Cancellations) (token : CancelToken) : Except RenderError Unit :=
  if state.isCancelled token then .error .cancelled else .ok ()

end Cancellations

/-- What the caller of a rendering asks for. -/
structure RenderOptions where
  /-- Whether an assembly is rendered with its references and types. -/
  full : Bool := false
  token : CancelToken
deriving DecidableEq, Repr

def RenderOptions.withCancellation (options : RenderOptions) (token : CancelToken) :
    RenderOptions :=
  { options with token }

/-- What a caller does with tokens. Those at hand are numbered in the order in which they came to
hand. -/
inductive TokenAction where
  | issue
  | copy (source : Nat)
  /-- Copies a token into the options of a rendering, and takes it from there. -/
  | pass (full : Bool) (source : Nat)
  | cancel (target : Nat)
deriving DecidableEq, Repr

/-- A caller with the tokens at hand, first come first. -/
structure TokenHolder where
  tokens : List CancelToken := []
  cancellations : Cancellations := {}
deriving DecidableEq, Repr

namespace TokenHolder

/-- There is no result if the token for the action is not at hand. -/
def perform? (holder : TokenHolder) : TokenAction → Option TokenHolder
  | .issue =>
    let (token, cancellations) := holder.cancellations.issue
    some { tokens := holder.tokens ++ [token], cancellations }
  | .copy source =>
    holder.tokens[source]?.map fun token => { holder with tokens := holder.tokens ++ [token] }
  | .pass full source =>
    holder.tokens[source]?.map fun token =>
      -- options come with a token of their own
      let (own, cancellations) := holder.cancellations.issue
      let options := ({ full, token := own } : RenderOptions).withCancellation token
      { tokens := holder.tokens ++ [options.token], cancellations }
  | .cancel target =>
    holder.tokens[target]?.map fun token =>
      { holder with cancellations := holder.cancellations.cancel token }

/-- The caller after a history of actions, who had no tokens before. -/
def after? (history : List TokenAction) : Option TokenHolder := history.foldlM perform? {}

def isCancelled? (holder : TokenHolder) (index : Nat) : Option Bool :=
  holder.tokens[index]?.map holder.cancellations.isCancelled

def check? (holder : TokenHolder) (index : Nat) : Option (Except RenderError Unit) :=
  holder.tokens[index]?.map holder.cancellations.check

end TokenHolder

end Cil
