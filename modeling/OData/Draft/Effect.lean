import OData.Draft.Basic
import OData.Exchange

/-!
# Effects of calls

What the calls on a draft do beside changing it: a misuse is reported when a draft
keeps it, and a page size goes to the client at once, also from within a group that
comes to nothing.
-/

namespace OData

inductive Effect where
  | report (event : Event)
  | pageSize (n : Nat)
  deriving DecidableEq, Repr

/-- The report of a misuse, if it is the first of the draft. -/
def Draft.reports (d : Draft) : Except Misuse Query → List Effect
  | .ok _ => []
  | .error m => if d.misuse.isSome then [] else [.report (.misuse m)]

mutual

/-- The effects of a call on a draft. -/
def Call.effects (g : Grammar) : Call → Draft → List Effect
  | .pageSize n, _ => [.pageSize n]
  | .group connector start calls, d =>
    effectsOfAll g calls (Draft.groupStart d.query start) ++
      d.reports (Call.change g (.group connector start calls) d.query)
  | call, d => d.reports (call.change g d.query)

/-- The effects of a sequence of calls, in order. -/
def effectsOfAll (g : Grammar) : List Call → Draft → List Effect
  | [], _ => []
  | call :: calls, d => call.effects g d ++ effectsOfAll g calls (d.apply g call)

end

def Exchange.absorb (x : Exchange) : Effect → Exchange
  | .report event => x.report [event]
  | .pageSize n => { x with pageSize := some n }

/-- One call on a draft of a client. -/
def Draft.call (g : Grammar) (d : Draft) (call : Call) : StateM Exchange Draft := fun x =>
  (d.apply g call, (call.effects g d).foldl Exchange.absorb x)

end OData
