import Shortlist.Fault
import Shortlist.Text.Quoted
import Shortlist.Uri

/-!
# Catalog addresses

The settings name the catalog by a URI, by the path of a socket behind `unix:`, or by a host and a
port alone, which then stands for a URI over plain HTTP. `CatalogAddress.parse` refuses what is none
of these.
-/

namespace Shortlist

/-- What a connection to the catalog is made to. -/
inductive CatalogPlace where
  | web (uri : Uri)
  /-- A socket in the file system. -/
  | socket (path : String)
  deriving DecidableEq, Repr

/-- A catalog's address in full, and the place that it names. -/
structure CatalogAddress where
  text : String
  place : CatalogPlace
  deriving DecidableEq, Repr

namespace CatalogAddress

open Shortlist.Text

/-- Whether a text shows a scheme. -/
def showsScheme : List Char → Bool
  | [] => false
  | ':' :: '/' :: '/' :: _ => true
  | _ :: rest => showsScheme rest

/-- An address without outer blanks, and with a scheme in front where it shows none. -/
def normalize (s : String) : String :=
  let trimmed := trimString s
  if showsScheme trimmed.toList then trimmed else "http://" ++ trimmed

/-- The place that a normalized address names. -/
def place? (address : String) : Option CatalogPlace :=
  match address.toList with
  | 'u' :: 'n' :: 'i' :: 'x' :: ':' :: '/' :: '/' :: path
  | 'u' :: 'n' :: 'i' :: 'x' :: ':' :: path => some (.socket (String.ofList path))
  | _ => (Uri.read? address).map .web

/-- Reads an address. -/
def parse (s : String) : Except Fault CatalogAddress :=
  let text := normalize s
  match place? text with
  | some place => .ok { text, place }
  | none => .error (.configuration ("invalid catalog address " ++ quote text ++ ": invalid URI"))

end CatalogAddress

end Shortlist
