import Brushwork.Recovery.Level
import Brushwork.Proofs.Shapes
import Brushwork.Proofs.Handout
import Brushwork.Proofs.Isolation
import Brushwork.Proofs.Machine.Level
import Brushwork.Proofs.Origins
import Brushwork.Proofs.Steps
import Brushwork.Proofs.MissingPlanes
import Brushwork.Proofs.BrokenSide
import Brushwork.Proofs.Completion
import Brushwork.Proofs.SurfaceSettings
import Brushwork.Proofs.FacePlane
import Brushwork.Proofs.TextureChain
import Brushwork.Proofs.TerrainCells
import Brushwork.Proofs.TerrainVertices
import Brushwork.Proofs.SquareTerrain
import Brushwork.Proofs.SideWarnings
import Brushwork.Proofs.BoxSides
import Brushwork.Proofs.ShortSurfaces
import Brushwork.Proofs.FirstMention
import Brushwork.Proofs.FaceTriangles
import Brushwork.Proofs.LargestTriangle
import Brushwork.Proofs.FacingAxes
import Brushwork.Proofs.SamplePoints
import Brushwork.Proofs.TextureCoordinates
import Brushwork.Proofs.Throttling
import Brushwork.Proofs.KeptProperties
import Brushwork.Proofs.WrittenPositions
