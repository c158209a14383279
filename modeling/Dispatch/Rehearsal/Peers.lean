import Dispatch.Rehearsal.Workspace

/-!
# Peers

Peers that accept connections at the sockets of a workspace, and take whatever is sent to them.
-/

set_option autoImplicit false

namespace Dispatch.Rehearsal

/-- The sockets are those of a workspace; connections to them are numbered from one. -/
structure Peers where
  workspace : Workspace
  opened : Nat
  closed : List Nat
  deriving DecidableEq, Repr, Inhabited

namespace Peers

def new (workspace : Workspace) : Peers := { workspace, opened := 0, closed := [] }

def pathLimit : Nat := 107

def accepts (p : Peers) (endpoint : String) : Bool :=
  let scheme := "ipc://".toList
  let path := String.ofList (endpoint.toList.drop scheme.length)
  scheme.isPrefixOf endpoint.toList && path.utf8ByteSize ≤ pathLimit &&
    p.workspace.nodeAt? path = some .socket

def dial (endpoint : String) (p : Peers) : Except TransportError Nat × Peers :=
  if p.accepts endpoint then (.ok (p.opened + 1), { p with opened := p.opened + 1 })
  else (.error (.connection "nothing accepts connections there"), p)

def close (connection : Nat) (p : Peers) : Peers := { p with closed := connection :: p.closed }

/-- Connections that take whatever is sent and deliver nothing. -/
def connector : Connector Peers Nat Empty Unit where
  openHandle
    | .publisher endpoint => .immediate () (dial endpoint)
    | _ => .immediate () fun p => (.error (.unsupported "connecting"), p)
  isOpen p connection := !p.closed.contains connection
  confirmSelect _ := .immediate () fun p => (.ok (), p)
  send _ _ := .immediate () fun p => (.ok (), p)
  close := close
  forget := close
  listen _ := .immediate () fun p => (.error (.unsupported "subscribing"), p)
  next subscription := nomatch subscription
  ack subscription := nomatch subscription
  nack subscription := nomatch subscription
  leave subscription := nomatch subscription

def clients (p : Peers) : CommandLine.Clients Peers Nat Empty Unit where
  outside := p
  process := "0"
  connector
    | .socket => some connector
    | _ => none

end Peers

end Dispatch.Rehearsal
