import Roster.Source.Http

namespace Roster.Simulation

/-! A web server that answers its requests one after the other as it is told to. It stands behind
every address that can be found without asking for names. -/

namespace WebServer

inductive Behaviour where
  /-- Answers it, and may announce another length than the body has. -/
  | answers (status : Int) (headers : List (String × List UInt8)) (body : List UInt8)
      (announced : Option Int)
  | closes

def line (text : String) (bytes : List UInt8) : List UInt8 :=
  text.toUTF8.toList ++ bytes ++ [Message.carriageReturn, Message.lineFeed]

/-- What the server writes before it closes the connection. -/
def written : Behaviour → List UInt8
  | .closes => []
  | .answers status headers body announced =>
    line ("HTTP/1.1 " ++ toString status ++ " X") [] ++
      headers.flatMap (fun (name, value) => line (name ++ ": ") value) ++
      line ("content-length: " ++ toString (announced.getD body.length)) [] ++
      line "connection: close" [] ++ line "" [] ++ body

/-- The n-th behaviour, or else the last. -/
def behaviour (behaviours : List Behaviour) (n : Nat) : Behaviour :=
  behaviours[n]?.getD (behaviours.getLast?.getD .closes)

/-- Whether an address leads to the server. It cannot read what is encrypted. -/
def isReached (url : Url) : Bool :=
  url.scheme == "http" &&
    match url.host with
    | some (.ipv4 _) => true
    | some (.ipv6 _) => true
    | some (.name name) => name == "localhost"
    | _ => false

/-- Carries an exchange through to its reply. Gives the requests that the server has seen. -/
def run (behaviours : List Behaviour) (exchange : Source.Http.Exchange) (seen : List String) :
    Nat → List String × Source.Http.Reply
  | 0 => (seen, .endlessRedirects exchange.url)
  | rounds + 1 =>
    if isReached exchange.url then
      let now := seen ++ [exchange.requestLine]
      match Message.Response.ofBytes? (written (behaviour behaviours seen.length)) with
      | none => (now, .silence exchange.first)
      | some response =>
        match Source.Http.onResponse exchange response with
        | .done reply => (now, reply)
        | .send next => run behaviours next now rounds
    else (seen, .silence exchange.first)

def exchange (behaviours : List Behaviour) (refuses : Bool) (start : Source.Http.Exchange) :
    List String × Source.Http.Reply :=
  if refuses then ([], .silence start.first)
  else run behaviours start [] (Source.Http.maxRedirects + 1)

end WebServer

end Roster.Simulation
