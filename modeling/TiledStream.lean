import TiledStream.Barrier.Assembly
import TiledStream.Main
import TiledStream.Manifest.Presentation
import TiledStream.Media.Fragment
import TiledStream.Media.Script
import TiledStream.Proofs.Barrier.Generations
import TiledStream.Proofs.Grid.Numbering
import TiledStream.Proofs.Manifest.FrameExtent
import TiledStream.Proofs.Manifest.Precedence
import TiledStream.Proofs.Media.Refinement
import TiledStream.Proofs.Media.Source
import TiledStream.Proofs.Media.Walking
import TiledStream.Proofs.Queue.Insisting
import TiledStream.Proofs.Queue.Wakeups
import TiledStream.Proofs.Segment.DistinctPaths
import TiledStream.Proofs.Selection.Falloff
import TiledStream.Proofs.Selection.RingMetric
import TiledStream.Proofs.Session.Closing
import TiledStream.Proofs.Session.Delivery
import TiledStream.Proofs.Session.Launching
import TiledStream.Proofs.Session.Postponed
import TiledStream.Proofs.Settings.Layers
import TiledStream.Queue.Waiting
import TiledStream.Segment.Bandwidth
import TiledStream.Selection.Viewport
import TiledStream.Session.Running
import TiledStream.Tile.Playback
