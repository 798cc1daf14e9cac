import Interop.Session.Reply

namespace Interop.Session

/-!
# Steps on descriptors

* `DescriptorStep` — make and look at domains, interfaces, classes and dispatch tables.
-/

/-- Where the parts of a new interface come from. -/
inductive InterfaceSource
  /-- From another one, its identity included. -/
  | copy (of : String)
  | fresh (kind : DescriptorKind) (name domain : Arg String)

/-- A step on descriptors. -/
inductive DescriptorStep
  | domain (name : Arg String) (parent : Option String)
  | domains (of : List String)
  /-- With `build`, the interface gets an identity of its own. -/
  | interface (source : InterfaceSource) (methods : Arg (List Method)) (build : Bool)
  | interfaces (domain start : Arg String) (count : Nat)
  | findMethod (interface name : Arg String)
  | sameInterface (a b : Arg String)
  | cls (name domain : Arg String) (interfaces : List InterfaceRef)
  | table (interfaces : List InterfaceRef) (resolve : Arg (List Method)) (slots : Arg (List Nat))

/-- Make a domain. -/
def makeDomain (name : String) (parent : Option Domain) : Run Domain :=
  modifyGetThe World fun w =>
    let (d, forest) := w.forest.grow name parent
    (d, { w with forest })

/-- Give an interface an identity that no other has. -/
def buildInterface (i : Interface) : Run Interface :=
  modifyGetThe World fun w =>
    (i.build w.nextInterface, { w with nextInterface := w.nextInterface + 1 })

/-- Carry out a step on descriptors. -/
def performDescriptor : DescriptorStep → Answering Outcome
  | .domain name parent => do
    let name ← name
    let parent ← parent.mapM findDomain
    let d ← makeDomain name parent
    return (.domain d, some (.domain d))
  | .domains of => do
    let ds ← of.mapM findDomain
    return (.domains (ds.map fun d => ds.map d.canSee) (ds.map fun d => ds.map d.same), none)
  | .interface source methods build => do
    let start ← match source with
      | .copy of => findInterface of
      | .fresh kind name domain => do
        let name ← name
        pure (Interface.new name (← findDomain (← domain)) kind)
    let declared := (← methods).foldl Interface.declare start
    let i ← if build then buildInterface declared else pure declared
    return (.interface i, some (.interface i))
  | .interfaces domain start count => do
    let d ← findDomain (← domain)
    let start ← start
    let is ← (List.range count).mapM fun n =>
      buildInterface (.new (start ++ toString n) d .interface)
    return (.ok, some (.interfaces is))
  | .findMethod interface name => do
    let i ← findInterface (← interface)
    return (.method (i.find? (← name)), none)
  | .sameInterface a b => do
    let a ← findInterface (← a)
    let b ← findInterface (← b)
    return (.same (a.serial == b.serial), none)
  | .cls name domain interfaces => do
    let name ← name
    let d ← findDomain (← domain)
    let c : HostClass := ⟨name, d, ← findInterfaces interfaces⟩
    return (.cls c, some (.cls c))
  | .table interfaces resolve slots => do
    let is ← findInterfaces interfaces
    match DispatchTable.build is with
    | .error e => return (.constructionError e, none)
    | .ok t =>
      let signatures := (← resolve).map Method.signature
      let resolved := signatures.map fun s => (t.slotOf s, t.resolve s)
      return (.table t resolved ((← slots).map t.slot?), none)

end Interop.Session
