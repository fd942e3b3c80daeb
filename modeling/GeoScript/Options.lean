/-! # Options of one evaluation -/

namespace GeoScript

/-- What one evaluation may do besides computing its result. -/
structure Options where
  /-- Labels are bound to the result. -/
  labels : Bool
  /-- Labels that are bound already may be bound again. -/
  redefinition : Bool
  /-- Sliders are made for free numbers. Processors may look at it; the basic one does not. -/
  sliders : Bool
  /-- Results are wanted in symbols. Processors may look at it; the basic one does not. -/
  symbolic : Bool
deriving DecidableEq

namespace Options

/-- A choice of the first two options, with the others off. -/
def of (labels redefinition : Bool) : Options :=
  { labels, redefinition, sliders := false, symbolic := false }

/-- Labels are bound, but none again. -/
def standard : Options := of true false

def withLabels (o : Options) (labels : Bool) : Options := { o with labels }
def withRedefinition (o : Options) (redefinition : Bool) : Options := { o with redefinition }
def withSliders (o : Options) (sliders : Bool) : Options := { o with sliders }
def withSymbolic (o : Options) (symbolic : Bool) : Options := { o with symbolic }

end Options

end GeoScript
