import SenderPolicy.Dns.Query

/-!
# Resolvers

A resolver answers queries from a state that each answer may change, so its answers may differ from one call to
the next. A resolver with fixed answers is the special case without a state.
-/

namespace SenderPolicy

/-- What answers queries. The state stands for all that its answers depend on. -/
structure Resolver (σ : Type) where
  ask : (q : Query) → σ → Answer q × σ

namespace Resolver

/-- The resolver whose answers never change. -/
def fixed (answers : (q : Query) → Answer q) : Resolver Unit where
  ask q _ := (answers q, ())

/-- The resolver that also keeps the queries it was asked, the last one first. -/
def logged {σ : Type} (R : Resolver σ) : Resolver (σ × List Query) where
  ask q s :=
    let (answer, next) := R.ask q s.1
    (answer, next, q :: s.2)

end Resolver

end SenderPolicy
