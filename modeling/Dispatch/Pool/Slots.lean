/-!
# Slots of a capped pool

A slot is free, granted to the caller that has waited longest, or held outside. A caller that finds
no free slot takes a ticket and waits in line; a slot that comes back goes to the first in line before
anybody else can see it.
-/

set_option autoImplicit false

namespace Dispatch

abbrev Ticket := Nat

structure Slots where
  free : Nat
  line : List Ticket
  granted : List Ticket
  nextTicket : Ticket
  closed : Bool
  deriving DecidableEq, Repr, Inhabited

namespace Slots

def limit : Nat := 2305843009213693951

def ofSize (size : Nat) : Slots :=
  { free := min size limit, line := [], granted := [], nextTicket := 0, closed := false }

def take? (s : Slots) : Option Slots :=
  if s.closed ∨ s.free = 0 then none else some { s with free := s.free - 1 }

def join (s : Slots) : Ticket × Slots :=
  (s.nextTicket,
    { s with
      line := if s.closed then s.line else s.line ++ [s.nextTicket]
      nextTicket := s.nextTicket + 1 })

/-- A slot comes back: the first in line gets it. -/
def give (s : Slots) : Slots :=
  match s.line with
  | [] => { s with free := s.free + 1 }
  | ticket :: line => { s with line, granted := s.granted ++ [ticket] }

def claim? (s : Slots) (ticket : Ticket) : Option Slots :=
  if ticket ∈ s.granted then some { s with granted := s.granted.erase ticket } else none

/-- Leaves the line, handing on a slot that was already granted. -/
def leave (s : Slots) (ticket : Ticket) : Slots :=
  match s.claim? ticket with
  | some s => s.give
  | none => { s with line := s.line.erase ticket }

def close (s : Slots) : Slots := { s with closed := true, line := [] }

end Slots

end Dispatch
