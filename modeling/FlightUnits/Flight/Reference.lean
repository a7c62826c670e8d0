import FlightUnits.Scalar

/-!
# Reference coefficients

Small tables of the handbook: the greatest lift coefficient of a wing surface, the skin friction
coefficient of a class of airframes, the efficiency of a planform and the drag area of an aircraft.
Each table is over a closed set whose members have identifiers.
-/

namespace FlightUnits.Flight

/-- The construction of a wing surface. -/
inductive WingSurface where
  | fabric
  | metal
  | composite
deriving DecidableEq

namespace WingSurface

/-- The identifier of a wing surface. -/
def id : WingSurface → String
  | fabric => "fabric"
  | metal => "metal"
  | composite => "composite"

/-- All wing surfaces. -/
def all : List WingSurface := [fabric, metal, composite]

/-- The wing surface with an identifier. -/
def ofId? (s : String) : Option WingSurface := all.find? (·.id == s)

/-- The approximate greatest lift coefficient. -/
def clMax : WingSurface → Literal
  | fabric => 1.2
  | metal => 1.3
  | composite => 1.35

end WingSurface

/-- A class of airframes with a known skin friction. -/
inductive FrictionReference where
  | superCleanSailplane
  | cleanTandem
  | enclosedTrainer
  | openBiplane
deriving DecidableEq

namespace FrictionReference

/-- The identifier of a class of airframes. -/
def id : FrictionReference → String
  | superCleanSailplane => "super_clean_sailplane"
  | cleanTandem => "clean_q2_dragonfly"
  | enclosedTrainer => "enclosed_basic_trainer_mono"
  | openBiplane => "open_stearman_biplane_exp_radial"

/-- All classes of airframes. -/
def all : List FrictionReference :=
  [superCleanSailplane, cleanTandem, enclosedTrainer, openBiplane]

/-- The class of airframes with an identifier. -/
def ofId? (s : String) : Option FrictionReference := all.find? (·.id == s)

/-- The skin friction coefficient for the wetted area. -/
def skinFriction : FrictionReference → Literal
  | superCleanSailplane => 0.003
  | cleanTandem => 0.005
  | enclosedTrainer => 0.009
  | openBiplane => 0.014

end FrictionReference

/-- The shape of a wing seen from above. -/
inductive Planform where
  | straight
  | tapered
  | elliptical
deriving DecidableEq

namespace Planform

/-- The identifier of a planform. -/
def id : Planform → String
  | straight => "straight"
  | tapered => "tapered"
  | elliptical => "elliptical"

/-- All planforms. -/
def all : List Planform := [straight, tapered, elliptical]

/-- The planform with an identifier. -/
def ofId? (s : String) : Option Planform := all.find? (·.id == s)

/-- The span efficiency of a planform. -/
def efficiency : Planform → Literal
  | straight => 0.85
  | tapered => 0.90
  | elliptical => 1.0

end Planform

/-- An aircraft with a published drag area. -/
inductive ReferenceAircraft where
  | ercoupe
  | cherokee180
  | varieze
  | lancair200
  | q2
  | dragonfly
deriving DecidableEq

namespace ReferenceAircraft

/-- The identifier of an aircraft. -/
def id : ReferenceAircraft → String
  | ercoupe => "ercoupe"
  | cherokee180 => "cherokee_180"
  | varieze => "varieze"
  | lancair200 => "lancair_200"
  | q2 => "q2"
  | dragonfly => "dragonfly"

/-- All aircraft with a published drag area. -/
def all : List ReferenceAircraft := [ercoupe, cherokee180, varieze, lancair200, q2, dragonfly]

/-- The aircraft with an identifier. -/
def ofId? (s : String) : Option ReferenceAircraft := all.find? (·.id == s)

/-- The drag divided by the dynamic pressure, in square feet. -/
def dragArea : ReferenceAircraft → Literal
  | ercoupe => 4.4
  | cherokee180 => 3.9
  | varieze => 2.1
  | lancair200 => 1.6
  | q2 => 1.3
  | dragonfly => 1.3

end ReferenceAircraft

end FlightUnits.Flight
