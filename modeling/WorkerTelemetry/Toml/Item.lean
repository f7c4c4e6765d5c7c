import WorkerTelemetry.Json.Basic

/-!
What a TOML document is made of, and how tables grow while it is read. A table is written by a
header or by braces, or it is only implied: by the header of a table inside it, or by a dotted key.
No table is written twice, a key never gets a second value, and dotted keys do not reach into
tables that were written on their own.
-/

namespace WorkerTelemetry.Toml

/-- How a table came to be. -/
inductive Origin
  | written
  | impliedByHeader
  | impliedByKey
  deriving DecidableEq, Repr, Inhabited

/-- A part of a document. -/
inductive Item
  | text (s : String)
  | int (n : Int)
  | float (x : Float)
  | bool (b : Bool)
  /-- A date, a time, or both. -/
  | moment
  | list (items : List Item)
  /-- A table between braces. -/
  | inline (origin : Origin) (entries : List (String × Item))
  | table (origin : Origin) (entries : List (String × Item))
  /-- The tables under one repeated header; each is a `table`. -/
  | tables (elements : List Item)
  deriving Inhabited

/-- A table while it is filled. -/
structure Body where
  origin : Origin
  entries : List (String × Item)
  deriving Inhabited

namespace Body

def find? (b : Body) (k : String) : Option Item := (b.entries.find? fun e => e.1 == k).map (·.2)

def set (b : Body) (k : String) (v : Item) : Body :=
  if (b.find? k).isSome then
    { b with entries := b.entries.map fun e => if e.1 == k then (k, v) else e }
  else { b with entries := b.entries ++ [(k, v)] }

def erase (b : Body) (k : String) : Body :=
  { b with entries := b.entries.filter fun e => e.1 != k }

/-- Adds an entry; a key that is taken is refused. -/
def add (b : Body) (k : String) (v : Item) : Option Body :=
  if (b.find? k).isSome then none else some (b.set k v)

/-- Adds the entry of a key behind a dotted path, inside the table that the path leads to. A dotted
path has to end in a table implied by dotted keys, and a key alone in one that is not. -/
def addAt (path : List String) (k : String) (v : Item) (b : Body) : Option Body :=
  if (b.origin == .impliedByKey) == path.isEmpty then none else b.add k v

/-- Changes the table that a path leads to. Missing tables are made; a repeated header stands for
its last table; dotted keys do not enter a written table. -/
def descend (dotted : Bool) (f : Body → Option Body) : List String → Body → Option Body
  | [], b => f b
  | k :: path, b =>
    match b.find? k with
    | none =>
      let origin := if dotted then Origin.impliedByKey else Origin.impliedByHeader
      (descend dotted f path ⟨origin, []⟩).map fun c => b.set k (.table c.origin c.entries)
    | some (.table origin entries) =>
      if dotted = true ∧ origin = .written then none
      else
        (descend dotted f path ⟨origin, entries⟩).map fun c =>
          b.set k (.table c.origin c.entries)
    | some (.tables elements) =>
      match elements.getLast? with
      | some (.table origin entries) =>
        (descend dotted f path ⟨origin, entries⟩).map fun c =>
          b.set k (.tables (elements.dropLast ++ [.table c.origin c.entries]))
      | _ => none
    | some _ => none

/-- Changes the table between braces that a dotted path leads to. -/
def descendInline (f : Body → Option Body) : List String → Body → Option Body
  | [], b => f b
  | k :: path, b =>
    match b.find? k with
    | none =>
      (descendInline f path ⟨.impliedByKey, []⟩).map fun c => b.set k (.inline c.origin c.entries)
    | some (.inline origin entries) =>
      if origin = .written then none
      else
        (descendInline f path ⟨origin, entries⟩).map fun c =>
          b.set k (.inline c.origin c.entries)
    | some _ => none

/-- Adds a value under a dotted key. -/
def addKey (keys : List String) (v : Item) (b : Body) : Option Body :=
  match keys.getLast? with
  | some k => b.descend true (addAt keys.dropLast k v) keys.dropLast
  | none => none

/-- Adds a value under a dotted key of a table between braces. -/
def addInlineKey (keys : List String) (v : Item) (b : Body) : Option Body :=
  match keys.getLast? with
  | some k => b.descendInline (addAt keys.dropLast k v) keys.dropLast
  | none => none

end Body

/-- The header that the lines now read stand under. -/
inductive Header
  | none
  | table (path : List String)
  | element (path : List String)

/-- A document while it is read: the finished tables, and the one being filled. -/
structure Draft where
  root : Body := ⟨.written, []⟩
  current : Body := ⟨.written, []⟩
  header : Header := .none

namespace Draft

/-- Puts the table being filled into its place. -/
def finish (d : Draft) : Option Body :=
  match d.header with
  | .none => some d.current
  | .table path =>
    d.root.descend false (fun parent =>
      match path.getLast? with
      | some k =>
        match parent.find? k with
        | none => some (parent.set k (.table d.current.origin d.current.entries))
        | some (.table origin _) =>
          if origin = .written then none
          else some (parent.set k (.table d.current.origin d.current.entries))
        | some _ => none
      | none => none) path.dropLast
  | .element path =>
    d.root.descend false (fun parent =>
      match path.getLast? with
      | some k =>
        match parent.find? k with
        | none => some (parent.set k (.tables [.table d.current.origin d.current.entries]))
        | some (.tables elements) =>
          some (parent.set k (.tables (elements ++ [.table d.current.origin d.current.entries])))
        | some _ => none
      | none => none) path.dropLast

/-- What stands under a path of the finished tables; the tables on the way are made. -/
def look (root : Body) (path : List String) : Option (Body × Option Item) :=
  match path.getLast? with
  | none => none
  | some k =>
    match root.descend false some path.dropLast with
    | none => none
    | some root =>
      let rec walk : List String → Body → Option Item
        | [], b => b.find? k
        | p :: ps, b =>
          match b.find? p with
          | some (.table origin entries) => walk ps ⟨origin, entries⟩
          | some (.tables elements) =>
            match elements.getLast? with
            | some (.table origin entries) => walk ps ⟨origin, entries⟩
            | _ => none
          | _ => none
      some (root, walk path.dropLast root)

/-- Goes on under the header of a table. A table that was only implied by headers keeps what is in
it. -/
def startTable (d : Draft) (path : List String) : Option Draft := do
  let root ← d.finish
  let (root, found) ← look root path
  let k ← path.getLast?
  let without ← root.descend false (fun b => some (b.erase k)) path.dropLast
  match found with
  | none => return ⟨without, ⟨.written, []⟩, .table path⟩
  | some (.table .impliedByHeader entries) => return ⟨without, ⟨.written, entries⟩, .table path⟩
  | some _ => none

/-- Goes on under a repeated header. -/
def startElement (d : Draft) (path : List String) : Option Draft := do
  let root ← d.finish
  let (root, found) ← look root path
  match found with
  | none => return ⟨root, ⟨.written, []⟩, .element path⟩
  | some (.tables _) => return ⟨root, ⟨.written, []⟩, .element path⟩
  | some _ => none

/-- Adds a value under a dotted key of the table being filled. -/
def addKey (d : Draft) (keys : List String) (v : Item) : Option Draft :=
  (d.current.addKey keys v).map fun b => { d with current := b }

end Draft

mutual

/-- The value that an item stands for. A moment becomes a record of its own, so that it is neither
a text nor a number. -/
def Item.toJson : Item → Json
  | .text s => .text s
  | .int n => .ofInt n
  | .float x => .number (.real x)
  | .bool b => .bool b
  | .moment => .object [("moment", .null)]
  | .list items => .list (itemsToJson items)
  | .inline _ entries => Json.ofMembers (entriesToJson entries)
  | .table _ entries => Json.ofMembers (entriesToJson entries)
  | .tables elements => .list (itemsToJson elements)

def itemsToJson : List Item → List Json
  | [] => []
  | i :: is => i.toJson :: itemsToJson is

def entriesToJson : List (String × Item) → List (String × Json)
  | [] => []
  | (k, i) :: es => (k, i.toJson) :: entriesToJson es

end

end WorkerTelemetry.Toml
