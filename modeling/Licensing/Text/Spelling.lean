namespace Licensing.Text

/-- Variant spellings, each with the spelling it counts as. -/
def spellingVariants : List (String × String) := [
  ("acknowledgement", "acknowledgment"),
  ("acknowledgements", "acknowledgments"),
  ("analogue", "analog"),
  ("analyse", "analyze"),
  ("artefact", "artifact"),
  ("authorisation", "authorization"),
  ("authorise", "authorize"),
  ("authorised", "authorized"),
  ("behaviour", "behavior"),
  ("calibre", "caliber"),
  ("cancelled", "canceled"),
  ("catalogue", "catalog"),
  ("centre", "center"),
  ("colour", "color"),
  ("defence", "defense"),
  ("emphasised", "emphasized"),
  ("favour", "favor"),
  ("favourite", "favorite"),
  ("fulfil", "fulfill"),
  ("fulfilment", "fulfillment"),
  ("honour", "honor"),
  ("https", "http"),
  ("initialise", "initialize"),
  ("judgement", "judgment"),
  ("labelled", "labeled"),
  ("labelling", "labeling"),
  ("licence", "license"),
  ("licenced", "licensed"),
  ("licences", "licenses"),
  ("licencing", "licensing"),
  ("licencor", "licensor"),
  ("licencee", "licensee"),
  ("memorise", "memorize"),
  ("modelling", "modeling"),
  ("offence", "offense"),
  ("optimise", "optimize"),
  ("organisation", "organization"),
  ("organise", "organize"),
  ("practise", "practice"),
  ("programme", "program"),
  ("realise", "realize"),
  ("recognise", "recognize"),
  ("signalling", "signaling"),
  ("sublicence", "sublicense"),
  ("summarise", "summarize"),
  ("travelling", "traveling"),
  ("utilisation", "utilization"),
  ("utilise", "utilize"),
  ("whilst", "while")]

/-- Compounds written as one word, each with the two words it stands for. -/
def compounds : List (String × String × String) := [
  ("noncommercial", "non", "commercial"),
  ("nonexclusive", "non", "exclusive"),
  ("noninfringement", "non", "infringement"),
  ("nontransferable", "non", "transferable"),
  ("sublicense", "sub", "license"),
  ("sublicensed", "sub", "licensed"),
  ("sublicensee", "sub", "licensee"),
  ("sublicensees", "sub", "licensees"),
  ("sublicenses", "sub", "licenses"),
  ("sublicensing", "sub", "licensing"),
  ("sublicensable", "sub", "licensable"),
  ("percent", "per", "cent"),
  ("website", "web", "site"),
  ("email", "e", "mail")]

def canonicalSpelling (word : String) : String :=
  (spellingVariants.lookup word).getD word

def splitCompound? (word : String) : Option (String × String) :=
  compounds.lookup word

end Licensing.Text
