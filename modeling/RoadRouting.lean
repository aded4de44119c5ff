import RoadRouting.Codec.Request
import RoadRouting.Command.Run
import RoadRouting.GeoJson
import RoadRouting.Main
import RoadRouting.Network.RoadIndex
import RoadRouting.Router
import RoadRouting.Stopwatch
import RoadRouting.Proofs.Cost.Ordered
import RoadRouting.Proofs.Cost.Ranked
import RoadRouting.Proofs.Graph.Walk
import RoadRouting.Proofs.Search.Exploration
import RoadRouting.Proofs.Search.FrontierOrder
import RoadRouting.Proofs.Search.Waiting
import RoadRouting.Proofs.Search.Tree
import RoadRouting.Proofs.Search.Agenda
import RoadRouting.Proofs.Search.Optimality
import RoadRouting.Proofs.Search.BestFirst
import RoadRouting.Proofs.Search.Ending
import RoadRouting.Proofs.Search.Estimates
import RoadRouting.Proofs.Search.TwoSided
import RoadRouting.Proofs.Search.Meeting
import RoadRouting.Proofs.Network.Build
import RoadRouting.Proofs.Nearest
import RoadRouting.Proofs.Network.Around
import RoadRouting.Proofs.Trip.Nodes
import RoadRouting.Proofs.Trip.Edges
import RoadRouting.Proofs.Search.Paths
import RoadRouting.Proofs.Search.Simple
import RoadRouting.Proofs.Search.Finding
import RoadRouting.Proofs.Trip.Simple
import RoadRouting.Proofs.Trip.Legs
import RoadRouting.Proofs.Router
import RoadRouting.Proofs.Network.Drive
import RoadRouting.Proofs.Trip.Drive
import RoadRouting.Proofs.Trip.Choice
import RoadRouting.Proofs.Trip.Shape
import RoadRouting.Proofs.Trip.LegCosts
import RoadRouting.Proofs.Trip.Bounds
import RoadRouting.Proofs.Trip.EdgeList
import RoadRouting.Proofs.Lookups
import RoadRouting.Proofs.Graph.Distance
import RoadRouting.Proofs.Trip.Splice
import RoadRouting.Proofs.Cost.WithNaN
import RoadRouting.Proofs.Search.NotNumbers
import RoadRouting.Proofs.Search.EdgeOrder
import RoadRouting.Proofs.Search.Effort
import RoadRouting.Proofs.Network.Import
import RoadRouting.Proofs.Json.Spelling
import RoadRouting.Proofs.Json.Record
import RoadRouting.Proofs.Codec.RoundTrip
import RoadRouting.Proofs.Network.History
import RoadRouting.Proofs.Network.RoadIndex
import RoadRouting.Proofs.Estimator
import RoadRouting.Proofs.Search.Work
import RoadRouting.Proofs.Command.Endpoint
