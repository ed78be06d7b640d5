-- SUMMARY: The topologies a sandbox can have, by name and in JSON.
import Sandbox.Json.Layout

/-!
# Topologies

A topology, also called a sandbox type, says which machines a sandbox has. Its
name is both what messages show and the name of the tool's variable for it.
-/

namespace Sandbox

inductive Topology
  /-- One load generator, one system under test and one backend on x64 machines. -/
  | defaultX64
  deriving DecidableEq, Repr

namespace Topology

def all : List Topology := [.defaultX64]

def name : Topology → String
  | .defaultX64 => "default_sandbox_x64_build_ids"

instance : ToString Topology := ⟨name⟩

def ofName? (s : String) : Option Topology := all.find? (·.name == s)

theorem ofName?_name (t : Topology) : ofName? t.name = some t := by
  cases t
  simp [ofName?, all]

theorem eq_of_name_eq {s t : Topology} (h : s.name = t.name) : s = t := by
  cases s; cases t; rfl

-- ---------------------------------------------------------------------------
-- Order
-- ---------------------------------------------------------------------------

instance : Ord Topology := ⟨fun s t => compare s.name t.name⟩

instance : Std.TransOrd Topology where
  eq_swap {s t} := by
    show compare s.name t.name = (compare t.name s.name).swap
    exact Std.OrientedCmp.eq_swap
  isLE_trans {s t u} := by
    show (compare s.name t.name).isLE → (compare t.name u.name).isLE →
      (compare s.name u.name).isLE
    exact Std.TransCmp.isLE_trans

instance : Std.LawfulEqOrd Topology where
  compare_self {s} := by
    show compare s.name s.name = .eq
    exact Std.ReflCmp.compare_self
  eq_of_compare {s t} h := by
    have hname : s.name = t.name :=
      Std.LawfulEqCmp.eq_of_compare (show compare s.name t.name = .eq from h)
    exact eq_of_name_eq hname

-- ---------------------------------------------------------------------------
-- JSON
-- ---------------------------------------------------------------------------

open Sandbox.Json

def toJson (t : Topology) : Document := .ofString t.name

def ofKey? (ps : Pieces) : Option Topology := ps.content? >>= ofName?

/-- Reads a topology from its name, or from an object with its name as the only key and
    null as the value. -/
def ofJson? : Document → Option Topology
  | .string ps => ofKey? ps
  | d =>
    match d.members? with
    | some [(key, value)] => if value.isNull then ofKey? key else none
    | _ => none

end Topology
end Sandbox
