namespace RentalStatus

structure MediaType where
  type : String
  subtype : String
  suffix : Option String
  deriving DecidableEq, Repr

namespace MediaType

def isToken (c : Char) : Bool :=
  c.isAlphanum || "!#$%&'*+-.^_`|~".contains c

def isQuotable (c : Char) : Bool := 31 < c.toNat && c.toNat != 127

def params : List Char → (fuel : Nat) → Bool
  | [], _ => true
  | _, 0 => false
  | cs, fuel + 1 =>
    let cs := match cs with
      | ' ' :: rest => rest
      | _ => cs
    match cs with
    | [] => true
    | ' ' :: _ => params cs fuel
    | _ =>
      let name := cs.takeWhile isToken
      match cs.drop name.length with
      | '=' :: rest =>
        if name.isEmpty then false
        else
          match rest with
          | '"' :: first :: q =>
            let body := first :: q.takeWhile fun c => c != '"'
            match q.drop (body.length - 1) with
            | '"' :: after =>
              if !body.all isQuotable then false
              else
                let after := after.dropWhile (· == ' ')
                match after with
                | [] => true
                | ';' :: more => params more fuel
                | _ => false
            | _ => false
          | _ =>
            let value := rest.takeWhile isToken
            match rest.drop value.length with
            | [] => true
            | ';' :: more => if value.isEmpty then false else params more fuel
            | _ => false
      | [] => false
      | _ => false

def parse? (s : String) : Option MediaType :=
  let cs := s.toList
  let top := cs.takeWhile isToken
  match cs.drop top.length with
  | '/' :: rest =>
    if top.isEmpty then none
    else
      let sub := rest.takeWhile isToken
      let after := rest.drop sub.length
      let ok := match after with
        | [] => true
        | ';' :: more => !sub.isEmpty && params more (more.length + 1)
        | _ => false
      if !ok then none
      else
        let sub := String.ofList sub |>.toLower
        -- the suffix follows the last `+` that is not the subtype's first character
        let pieces := sub.splitOn "+"
        let (subtype, suffix) :=
          if pieces.length ≤ 1 || sub.startsWith "+" && pieces.length = 2 then (sub, none)
          else ("+".intercalate pieces.dropLast, pieces.getLast?)
        some ⟨(String.ofList top).toLower, subtype, suffix⟩
  | _ => none

def isJson (m : MediaType) : Bool :=
  m.type == "application" && (m.subtype == "json" || m.suffix == some "json")

def isText (h : String) : Bool := h.toList.all fun c => c = '\t' || (0x20 ≤ c.toNat && c.toNat < 0x7F)

/-- Whether a content-type header declares JSON; a header that is not text declares nothing. -/
def declaresJson (header : Option String) : Bool :=
  match header with
  | some h => isText h && ((parse? h).map isJson).getD false
  | none => false

end MediaType

end RentalStatus
