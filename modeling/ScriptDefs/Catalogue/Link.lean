import ScriptDefs.Text.Case

/-!
# Links

Every entry of a catalogue has a page in the wiki.
-/

namespace ScriptDefs.Catalogue

/-- What the address of every wiki page begins with. -/
def wikiBase : Text := "https://wiki.secondlife.com/wiki/"

/-- The page of a name as it is spelled. -/
def pageLink (name : Text) : Text := wikiBase ++ name

/-- The page of a name, spelled with a capital. -/
def capitalLink (name : Text) : Text := wikiBase ++ name.capitalize

end ScriptDefs.Catalogue
