import GridWalk.Grid.Neighbour
import GridWalk.Grid.Pixel
import GridWalk.Grid.Sample
import GridWalk.Proofs.Grid.Built
import GridWalk.Proofs.Grid.CellMap
import GridWalk.Proofs.Search.BestPath
import GridWalk.Proofs.Search.Termination
import GridWalk.Search.Navigator
import GridWalk.Terrain
import GridWalk.Proofs.Search.Comparison
import GridWalk.Proofs.Search.Footing
import GridWalk.Proofs.Search.Replanning
import GridWalk.Proofs.Search.Relevance
import GridWalk.Proofs.Search.Separation
import GridWalk.Proofs.Grid.Faults
import GridWalk.Proofs.Grid.Generator
import GridWalk.Proofs.Grid.Numbering
import GridWalk.Proofs.Grid.Displacement
import GridWalk.Proofs.Adjacency
import GridWalk.Proofs.Trip.FirstBreach
import GridWalk.Proofs.Trip.Rechecking
import GridWalk.Proofs.Trip.Ways
import GridWalk.Proofs.Grid.Conservation
import GridWalk.Proofs.Search.OpenGround
import GridWalk.Proofs.Grid.Equality
import GridWalk.Proofs.Grid.Draws
import GridWalk.Proofs.Grid.Pixels
import GridWalk.Proofs.Trip.Marking
import GridWalk.Proofs.Walls
import GridWalk.Proofs.Walk
import GridWalk.Proofs.Search.Levels
