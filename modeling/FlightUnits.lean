import FlightUnits.Main
import FlightUnits.Release.Tool
import FlightUnits.Script.Conversion
import FlightUnits.Script.Formula
import FlightUnits.Script.Interpolation
import FlightUnits.Script.Lookup
import FlightUnits.Service.Reply
import FlightUnits.Standard
import FlightUnits.Proofs.CalculationTree
import FlightUnits.Proofs.ConversionChain
import FlightUnits.Proofs.ConversionOrder
import FlightUnits.Proofs.DynamicPressure
import FlightUnits.Proofs.ExactSums
import FlightUnits.Proofs.ExchangeCloseness
import FlightUnits.Proofs.ExchangeGuard
import FlightUnits.Proofs.FiniteAnswers
import FlightUnits.Proofs.FrontEnds
import FlightUnits.Proofs.HandbookUnits
import FlightUnits.Proofs.InverseOperations
import FlightUnits.Proofs.LiftBalance
import FlightUnits.Proofs.PhysicalSoundness
import FlightUnits.Proofs.PiecewiseLinear
import FlightUnits.Proofs.PlanformGeometry
import FlightUnits.Proofs.ProductRegrouping
import FlightUnits.Proofs.QuantityOperators
import FlightUnits.Proofs.RelationCheck
import FlightUnits.Proofs.RepeatedNegation
import FlightUnits.Proofs.StableRounding
import FlightUnits.Proofs.TableCheck
import FlightUnits.Proofs.TableListings
import FlightUnits.Proofs.ValueIndependence
import FlightUnits.Proofs.VersionCheck
