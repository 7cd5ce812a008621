/-!
# Families of level formats

Every engine fork stores its levels in a format of its own. The family of a level decides
which of its tables are used and what the bits of its flags mean.
-/

namespace Brushwork

/-- The engine forks whose levels can be read. -/
inductive Family
  | quake | goldSrc | nightfire | quake2 | daikatana | sin | sof | quake3 | raven
  | cod | cod2 | cod4 | stef2 | stef2Demo | mohaa | fakk
  | source17 | source18 | source19 | source20 | source21 | source22 | source23 | source27
  | l4d2 | vindictus | dmomam | tacticalInterventionEncrypted | titanfall
  deriving DecidableEq, Repr, Inhabited

namespace Family

/-- Every family, oldest engine first. -/
def all : List Family :=
  [quake, goldSrc, nightfire, quake2, daikatana, sin, sof, quake3, raven, cod, cod2, cod4,
   stef2, stef2Demo, mohaa, fakk, source17, source18, source19, source20, source21, source22,
   source23, source27, l4d2, vindictus, dmomam, tacticalInterventionEncrypted, titanfall]

/-- The name a family is shown by. -/
def name : Family → String
  | quake => "Quake"
  | goldSrc => "GoldSrc"
  | nightfire => "Nightfire"
  | quake2 => "Quake2"
  | daikatana => "Daikatana"
  | sin => "SiN"
  | sof => "SoF"
  | quake3 => "Quake3"
  | raven => "Raven"
  | cod => "CoD"
  | cod2 => "CoD2"
  | cod4 => "CoD4"
  | stef2 => "STEF2"
  | stef2Demo => "STEF2Demo"
  | mohaa => "MOHAA"
  | fakk => "FAKK"
  | source17 => "Source17"
  | source18 => "Source18"
  | source19 => "Source19"
  | source20 => "Source20"
  | source21 => "Source21"
  | source22 => "Source22"
  | source23 => "Source23"
  | source27 => "Source27"
  | l4d2 => "L4D2"
  | vindictus => "Vindictus"
  | dmomam => "DMoMaM"
  | tacticalInterventionEncrypted => "TacticalInterventionEncrypted"
  | titanfall => "Titanfall"

/-- The family with a name. -/
def ofName? (s : String) : Option Family :=
  all.find? (·.name == s)

/-- The first six sides of a brush are those of a box, stored as bounds without planes. -/
def storesBoxSides : Family → Bool
  | cod | cod2 | cod4 => true
  | _ => false

/-- A face can be a height field over a square of vertices. -/
def hasFaceTerrain : Family → Bool
  | stef2 | stef2Demo => true
  | _ => false

/-- A side refers to its texture by a texture mapping, from which further tables lead to a
name. -/
def namesTexturesIndirectly : Family → Bool
  | source17 | source18 | source19 | source20 | source21 | source22 | source23 | source27
  | vindictus | dmomam | l4d2 | tacticalInterventionEncrypted | titanfall => true
  | _ => false

/-- Only patches of kind zero are curved surfaces. -/
def keepsOnlyCurvedPatches : Family → Bool
  | cod => true
  | _ => false

end Family

end Brushwork
