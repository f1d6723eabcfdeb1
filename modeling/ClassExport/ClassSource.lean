import ClassExport.Registry

/-! Sources of classes: registries, and chains of sources that are asked in order. -/
namespace ClassExport

inductive ClassSource where
  | registry (registry : Registry)
  | chain (sources : List ClassSource)

namespace ClassSource

mutual

/-- The first answer other than "not found", and what the sources asked for it have told. -/
def lookup (name : String) : ClassSource → Lookup
  | .registry r => r.lookup name
  | .chain sources => lookupFirst name sources

def lookupFirst (name : String) : List ClassSource → Lookup
  | [] => .missing name
  | s :: rest =>
    let first := s.lookup name
    match first.answer with
    | .error (.classNotFound _) =>
      let next := lookupFirst name rest
      ⟨next.answer, first.events ++ next.events⟩
    | _ => first

end

def resolve (name : String) (s : ClassSource) : Except Failure Class := (s.lookup name).answer

def resolveFirst (name : String) (sources : List ClassSource) : Except Failure Class :=
  (lookupFirst name sources).answer

theorem resolve_registry (name : String) (r : Registry) :
    (registry r).resolve name = r.resolve name := rfl

theorem resolve_chain (name : String) (sources : List ClassSource) :
    (chain sources).resolve name = resolveFirst name sources := rfl

theorem resolveFirst_cons (name : String) (s : ClassSource) (rest : List ClassSource) :
    resolveFirst name (s :: rest) = match s.resolve name with
      | .error (.classNotFound _) => resolveFirst name rest
      | answer => answer := by
  rw [resolveFirst, lookupFirst, resolve]
  dsimp only
  cases h : (s.lookup name).answer with
  | ok c => exact h
  | error failure =>
    cases failure with
    | classNotFound => rfl
    | _ => exact h

mutual

/-- Qualified names in the order of the sources, each once. -/
def known : ClassSource → List String
  | .registry r => r.known
  | .chain sources => (knownAll sources).eraseDups

def knownAll : List ClassSource → List String
  | [] => []
  | s :: rest => s.known ++ knownAll rest

end

end ClassSource
end ClassExport
