import MeteredBilling.Reading.Decoder

/-!
# Records

Values that are read from named members. A record visits all of its members: of several faults the
one that stands first is reported, and members that are absent count as standing behind the last
one, in the order of the record.
-/

namespace MeteredBilling

/-- A fault and the place of the member that has it. -/
structure Fault where
  place : Nat
  cause : DecodeError

/-- Reads a value from named members. -/
structure Record (ν β : Type) where
  /-- The name of what is read. -/
  title : String
  /-- The names of the members in the order of an array that holds just their values; `none` if the
  record has no such form. -/
  names : Option (List String)
  read : List (String × ν) → Except Fault β

namespace Record

variable {ν β γ : Type}

/-- Of two faults the one that stands first, and the left one if both stand at one place. -/
def combine (f : Except Fault (β → γ)) (x : Except Fault β) : Except Fault γ :=
  match f, x with
  | .ok f, .ok x => .ok (f x)
  | .ok _, .error e => .error e
  | .error e, .ok _ => .error e
  | .error e, .error e' => .error (if e'.place < e.place then e' else e)

instance : Applicative (Record ν) where
  pure value := ⟨"", some [], fun _ => .ok value⟩
  seq f x :=
    ⟨"", return (← f.names) ++ (← (x ()).names), fun members =>
      combine (f.read members) ((x ()).read members)⟩

/-- Names what is read. -/
def titled (title : String) (record : Record ν β) : Record ν β := { record with title }

/-- The member of that name, which may stand there once. -/
def member (name : String) (read : Decoder ν β) (absent : Except DecodeError β) : Record ν β where
  title := ""
  names := some [name]
  read members :=
    match members.zipIdx.filter (·.1.1 == name) with
    | [] => absent.mapError (Fault.mk members.length)
    | ((_, value), place) :: others =>
      match read value, others with
      | .error e, _ => .error ⟨place, e⟩
      | .ok value, [] => .ok value
      | .ok _, (_, again) :: _ =>
        .error ⟨again, .unfit ("duplicate field " ++ DecodeError.quoteName name)⟩

def required (name : String) (read : Decoder ν β) : Record ν β :=
  member name read (.error (.missingField name))

/-- A member that may be absent or null. -/
def optional [Source ν] (name : String) (read : Decoder ν β) : Record ν (Option β) :=
  member name (Decoder.optional read) (.ok none)

/-- A member that has a default. -/
def defaulted (name : String) (read : Decoder ν β) (value : β) : Record ν β :=
  member name read (.ok value)

/-- The record in words. -/
def description (record : Record ν β) : String := "struct " ++ record.title

/-- The place among the members of the one that a fault found absent. -/
def absentAt (names : List String) (items : Nat) : DecodeError → Nat
  | .missingField name => names.idxOf name
  | _ => items

/-- Reads the values of the members from an array, which holds no more than those; members at the
end that may be absent may lack. The first one that may not is told by its place. -/
def ofItems [Source ν] (record : Record ν β) (v : ν) (items : List ν) : Except DecodeError β :=
  match record.names with
  | none => .error (Decoder.unexpected record.description v)
  | some names =>
    match record.read (names.zip items) with
    | .error e =>
      if e.place < items.length then .error e.cause
      else .error (.length (absentAt names items.length e.cause) (record.description ++ " with "
        ++ toString names.length ++ (if names.length = 1 then " element" else " elements")))
    | .ok value =>
      if names.length < items.length then .error (Source.surplus v items.length) else .ok value

/-- Reads the named members of an object, which may be cut short behind them. -/
def ofMembers [Source ν] (record : Record ν β) (v : ν) (members : List (String × ν)) :
    Except DecodeError β :=
  match record.read members with
  | .ok value => if Source.isCut v then .error .malformed else .ok value
  | .error e =>
    if Source.isCut v && members.length ≤ e.place then .error .malformed else .error e.cause

def decoder [Source ν] (record : Record ν β) : Decoder ν β := fun v =>
  match Source.members? v, Source.unnamed? v with
  | some members, _ => record.ofMembers v members
  | none, some items => record.ofItems v items
  | none, none => .error (Decoder.unexpected record.description v)

/-- Reads one record and then another one, for which the members were set aside, from the same
members. -/
def followedBy [Source ν] (first : Record ν (β → γ)) (second : Record ν β) : Record ν γ where
  title := first.title
  names := none
  read members :=
    match first.read members with
    | .error e => .error e
    | .ok f =>
      (second.read (members.map fun (name, value) => (name, Source.setAside value))).map f

end Record
end MeteredBilling
