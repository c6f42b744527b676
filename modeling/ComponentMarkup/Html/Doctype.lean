import ComponentMarkup.Text.Blank

/-!
Document types as markup declares them, and those of old documents, whose paragraphs hold tables.
-/

namespace ComponentMarkup.Html

structure Doctype where
  name : String
  publicId : Option String := none
  systemId : Option String := none
  malformed : Bool := false

namespace Doctype

def skipBlanks (cs : List Char) : List Char := cs.dropWhile Text.isMarkupBlank

def lowered (cs : List Char) : String := String.ofList (cs.map Char.toLower)

/-- What follows a keyword, in letters of either case. -/
def afterKeyword? (keyword : String) (cs : List Char) : Option (List Char) :=
  if lowered (cs.take keyword.length) = keyword then some (cs.drop keyword.length) else none

/-- A quoted identifier in lower case, whether its quote is closed, and what follows it. -/
def readId? (cs : List Char) : Option (String × Bool × List Char) :=
  match skipBlanks cs with
  | q :: rest =>
      if q = '"' || q = '\'' then
        let after := rest.dropWhile (· != q)
        some (lowered (rest.takeWhile (· != q)), !after.isEmpty, after.drop 1)
      else none
  | [] => none

/-- Reads the system identifier that has to stand here; nothing behind it matters. -/
def readSystem (d : Doctype) (cs : List Char) : Doctype :=
  match readId? cs with
  | some (systemId, closed, _) => { d with systemId := some systemId, malformed := !closed }
  | none => { d with malformed := true }

/-- Reads the public identifier that has to stand here, and the system identifier behind it. -/
def readPublic (d : Doctype) (cs : List Char) : Doctype :=
  match readId? cs with
  | some (publicId, closed, rest) =>
      let d := { d with publicId := some publicId, malformed := !closed }
      if (skipBlanks rest).isEmpty then d else d.readSystem rest
  | none => { d with malformed := true }

/-- Reads what stands in a declaration behind the name. -/
def readIds (d : Doctype) (cs : List Char) : Doctype :=
  match afterKeyword? "public" cs with
  | some rest => d.readPublic rest
  | none =>
      match afterKeyword? "system" cs with
      | some rest => d.readSystem rest
      | none => { d with malformed := !cs.isEmpty }

/-! ## Old document types -/

def oldPublicIds : List String := [
  "-//w3o//dtd w3 html strict 3.0//en//",
  "-/w3c/dtd html 4.0 transitional/en",
  "html"]

def oldSystemIds : List String := ["http://www.ibm.com/data/dtd/v11/ibmxhtml1-transitional.dtd"]

def oldFamilies : List String := [
  "+//silmaril//dtd html pro v0r11 19970101//",
  "-//advasoft ltd//dtd html 3.0 aswedit + extensions//",
  "-//as//dtd html 3.0 aswedit + extensions//",
  "-//ietf//dtd html 2.0 level 1//",
  "-//ietf//dtd html 2.0 level 2//",
  "-//ietf//dtd html 2.0 strict level 1//",
  "-//ietf//dtd html 2.0 strict level 2//",
  "-//ietf//dtd html 2.0 strict//",
  "-//ietf//dtd html 2.0//",
  "-//ietf//dtd html 2.1e//",
  "-//ietf//dtd html 3.0//",
  "-//ietf//dtd html 3.2 final//",
  "-//ietf//dtd html 3.2//",
  "-//ietf//dtd html 3//",
  "-//ietf//dtd html level 0//",
  "-//ietf//dtd html level 1//",
  "-//ietf//dtd html level 2//",
  "-//ietf//dtd html level 3//",
  "-//ietf//dtd html strict level 0//",
  "-//ietf//dtd html strict level 1//",
  "-//ietf//dtd html strict level 2//",
  "-//ietf//dtd html strict level 3//",
  "-//ietf//dtd html strict//",
  "-//ietf//dtd html//",
  "-//metrius//dtd metrius presentational//",
  "-//microsoft//dtd internet explorer 2.0 html strict//",
  "-//microsoft//dtd internet explorer 2.0 html//",
  "-//microsoft//dtd internet explorer 2.0 tables//",
  "-//microsoft//dtd internet explorer 3.0 html strict//",
  "-//microsoft//dtd internet explorer 3.0 html//",
  "-//microsoft//dtd internet explorer 3.0 tables//",
  "-//netscape comm. corp.//dtd html//",
  "-//netscape comm. corp.//dtd strict html//",
  "-//o'reilly and associates//dtd html 2.0//",
  "-//o'reilly and associates//dtd html extended 1.0//",
  "-//o'reilly and associates//dtd html extended relaxed 1.0//",
  "-//softquad software//dtd hotmetal pro 6.0::19990601::extensions to html 4.0//",
  "-//softquad//dtd hotmetal pro 4.0::19971010::extensions to html 4.0//",
  "-//spyglass//dtd html 2.0 extended//",
  "-//sq//dtd html 2.0 hotmetal + extensions//",
  "-//sun microsystems corp.//dtd hotjava html//",
  "-//sun microsystems corp.//dtd hotjava strict html//",
  "-//w3c//dtd html 3 1995-03-24//",
  "-//w3c//dtd html 3.2 draft//",
  "-//w3c//dtd html 3.2 final//",
  "-//w3c//dtd html 3.2//",
  "-//w3c//dtd html 3.2s draft//",
  "-//w3c//dtd html 4.0 frameset//",
  "-//w3c//dtd html 4.0 transitional//",
  "-//w3c//dtd html experimental 19960712//",
  "-//w3c//dtd html experimental 970421//",
  "-//w3c//dtd w3 html//",
  "-//w3o//dtd w3 html 3.0//",
  "-//webtechs//dtd mozilla html 2.0//",
  "-//webtechs//dtd mozilla html//"]

/-- Families that are old only where no system identifier is given. -/
def oldFamiliesAlone : List String := [
  "-//w3c//dtd html 4.01 frameset//",
  "-//w3c//dtd html 4.01 transitional//"]

/-- Whether a public identifier begins as those of one of the families do. -/
def belongsTo (families : List String) (publicId : String) : Bool :=
  families.any (·.isPrefixOf publicId)

/-- Whether a document of this type is read by the rules of old documents. -/
def isOld (d : Doctype) : Bool :=
  d.malformed || d.name != "html" || d.publicId.any oldPublicIds.contains
    || d.systemId.any oldSystemIds.contains || d.publicId.any (belongsTo oldFamilies)
    || (d.systemId.isNone && d.publicId.any (belongsTo oldFamiliesAlone))

end ComponentMarkup.Html.Doctype
