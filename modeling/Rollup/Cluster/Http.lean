import Rollup.Cluster.Search
import Rollup.Json.Printer

/-!
# Messages on the wire

A message is one HTTP/1.1 request on a connection of its own. The reply ends with the
connection; its body may come in chunks.
-/

namespace Rollup
namespace Cluster

def Url.hostText (url : Url) : String :=
  let host := url.host.getD ""
  match url.port with
  | some port => s!"{host}:{port}"
  | none => host

def Message.wire (message : Message) : String :=
  let body := message.body.text
  let authorization :=
    match message.authorization with
    | some value => [s!"authorization: {value}"]
    | none => []
  let lines :=
    [ message.requestLine ++ " HTTP/1.1"
    , s!"host: {message.url.hostText}"
    , "content-type: application/json"
    , "accept: */*"
    , "connection: close"
    , s!"content-length: {body.utf8ByteSize}" ] ++ authorization
  String.intercalate "\r\n" lines ++ "\r\n\r\n" ++ body

def takeLine : List UInt8 -> Option (List UInt8 × List UInt8)
  | 13 :: 10 :: rest => some ([], rest)
  | byte :: rest => (takeLine rest).map (fun (line, after) => (byte :: line, after))
  | [] => none

def lineText (bytes : List UInt8) : String :=
  String.ofList (bytes.map (fun byte => Char.ofNat byte.toNat))

def head? : Nat -> List UInt8 -> Option (List String × List UInt8)
  | 0, _ => none
  | rounds + 1, bytes => do
      let (line, rest) <- takeLine bytes
      if line.isEmpty then
        return ([], rest)
      else
        let (lines, body) <- head? rounds rest
        return (lineText line :: lines, body)

def joinChunks? : Nat -> List UInt8 -> Option (List UInt8)
  | 0, _ => none
  | rounds + 1, bytes => do
      let (line, rest) <- takeLine bytes
      let size <- digitsIn? 16 ((lineText line).toList.takeWhile (fun c => c.isAlphanum))
      if size = 0 then
        return []
      else if rest.length < size + 2 then
        none
      else
        let later <- joinChunks? rounds (rest.drop (size + 2))
        return rest.take size ++ later

def header? (name : String) (lines : List String) : Option String :=
  lines.findSome? (fun line =>
    let key := line.toList.takeWhile (fun c => c != ':')
    if key.map Char.toLower = name.toList then
      some (String.ofList ((line.toList.drop (key.length + 1)).filter (fun c => c != ' ')))
    else
      none)

def status? (line : String) : Option Nat :=
  match splitAt (fun c => c == ' ') line.toList with
  | _ :: code :: _ => Number.readDigits? code
  | _ => none

def Reply.ofBytes? (bytes : List UInt8) : Option Reply := do
  let (lines, body) <- head? (bytes.length + 1) bytes
  let status <- lines.head?.bind status?
  let content <-
    match header? "transfer-encoding" lines, header? "content-length" lines with
    | some _, _ => joinChunks? (body.length + 1) body
    | none, some length => do
        let size <- Number.readDigits? length.toList
        if body.length < size then none else some (body.take size)
    | none, none => some body
  let text <- String.fromUTF8? (ByteArray.mk content.toArray)
  return { status := status, body := text }

end Cluster
end Rollup
