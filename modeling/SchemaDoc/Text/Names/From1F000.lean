/-
SchemaDoc.Text.Names.From1F000 — the names of the characters from U+1F000 on.

The block holds games, pictures and tags.
How it is written is said where it is read.
-/

namespace SchemaDoc.Text.Names

/-- The names from U+1F000 on. -/
def from1F000 : String :=
  "aMAHJONG TILE EAST WIND,jSOUTH WIND,kWEST WIND,jNORTH WIND,kRED DRAGON,kGREEN DRAGON
mWHITE DRAGON,mONE OF CHARACTERS,rTWO OF CHARACTERS,qHREE OF CHARACTERS,tFOUR OF CHARACTERS
rIVE OF CHARACTERS,sSIX OF CHARACTERS,qEVEN OF CHARACTERS,tEIGHT OF CHARACTERS,tNINE OF CHARACTERS
sONE OF BAMBOOS,oTWO OF BAMBOOS,nHREE OF BAMBOOS,qFOUR OF BAMBOOS,oIVE OF BAMBOOS,pSIX OF BAMBOOS
nEVEN OF BAMBOOS,qEIGHT OF BAMBOOS,qNINE OF BAMBOOS,pONE OF CIRCLES,oTWO OF CIRCLES
nHREE OF CIRCLES,qFOUR OF CIRCLES,oIVE OF CIRCLES,pSIX OF CIRCLES,nEVEN OF CIRCLES
qEIGHT OF CIRCLES,qNINE OF CIRCLES,pPLUM,eORCHID,gBAMBOO,gCHRYSANTHEMUM,nSPRING,fUMMER,gAUTUMN
gWINTER,gJOKER,fBACK,+4,rDOMINO TILE HORIZONTAL BACK,f-00-00,b1,b2,b3,b4,b5,b6,e1-00,b1,b2,b3,b4,b5
b6,e2-00,b1,b2,b3,b4,b5,b6,e3-00,b1,b2,b3,b4,b5,b6,e4-00,b1,b2,b3,b4,b5,b6,e5-00,b1,b2,b3,b4,b5,b6
e6-00,b1,b2,b3,b4,b5,b6,qVERTICAL BACK,f-00-00,b1,b2,b3,b4,b5,b6,e1-00,b1,b2,b3,b4,b5,b6,e2-00,b1
b2,b3,b4,b5,b6,e3-00,b1,b2,b3,b4,b5,b6,e4-00,b1,b2,b3,b4,b5,b6,e5-00,b1,b2,b3,b4,b5,b6,e6-00,b1,b2
b3,b4,b5,b6,+12,zbPLAYING CARD BACK,eACE OF SPADES,nTWO OF SPADES,mHREE OF SPADES,pFOUR OF SPADES
nIVE OF SPADES,oSIX OF SPADES,mEVEN OF SPADES,pEIGHT OF SPADES,pNINE OF SPADES,oTEN OF SPADES
nJACK OF SPADES,oKNIGHT OF SPADES,qQUEEN OF SPADES,pKING OF SPADES,+2,oACE OF HEARTS,nTWO OF HEARTS
mHREE OF HEARTS,pFOUR OF HEARTS,nIVE OF HEARTS,oSIX OF HEARTS,mEVEN OF HEARTS,pEIGHT OF HEARTS
pNINE OF HEARTS,oTEN OF HEARTS,nJACK OF HEARTS,oKNIGHT OF HEARTS,qQUEEN OF HEARTS,pKING OF HEARTS
oRED JOKER,+1,jACE OF DIAMONDS,pTWO OF DIAMONDS,oHREE OF DIAMONDS,rFOUR OF DIAMONDS
pIVE OF DIAMONDS,qSIX OF DIAMONDS,oEVEN OF DIAMONDS,rEIGHT OF DIAMONDS,rNINE OF DIAMONDS
qTEN OF DIAMONDS,pJACK OF DIAMONDS,qKNIGHT OF DIAMONDS,sQUEEN OF DIAMONDS,rKING OF DIAMONDS
qBLACK JOKER,+1,lACE OF CLUBS,mTWO OF CLUBS,lHREE OF CLUBS,oFOUR OF CLUBS,mIVE OF CLUBS
nSIX OF CLUBS,lEVEN OF CLUBS,oEIGHT OF CLUBS,oNINE OF CLUBS,nTEN OF CLUBS,mJACK OF CLUBS
nKNIGHT OF CLUBS,pQUEEN OF CLUBS,oKING OF CLUBS,nWHITE JOKER,lFOOL,eTRUMP-1,b2,b3,b4,b5,b6,b7,b8,b9
b10,b1,b2,b3,b4,b5,b6,b7,b8,b9,c20,b1,+10,vDIGIT ZERO FULL STOP,jCOMMA,kONE COMMA,jTWO COMMA
iHREE COMMA,lFOUR COMMA,jIVE COMMA,kSIX COMMA,iEVEN COMMA,lEIGHT COMMA,lNINE COMMA
oNGBAT CIRCLED SANS-SERIF DIGIT ZERO,zeNEGATIVE CIRCLED SANS-SERIF DIGIT ZERO
zvCIRCLED ZERO WITH SLASH,pANTICLOCKWISE ARROW,tDOLLAR SIGN WITH OVERLAID BACKSLASH
zsPARENTHESIZED LATIN CAPITAL LETTER A,bB,bC,bD,bE,bF,bG,bH,bI,bJ,bK,bL,bM,bN,bO,bP,bQ,bR,bS,bT,bU
bV,bW,bX,bY,bZ,zlTORTOISE SHELL BRACKETED LATIN CAPITAL LETTER S
zwCIRCLED ITALIC LATIN CAPITAL LETTER C,bR,zeCD,cWZ,jOPYLEFT SYMBOL,pSQUARED LATIN CAPITAL LETTER A
bB,bC,bD,bE,bF,bG,bH,bI,bJ,bK,bL,bM,bN,bO,bP,bQ,bR,bS,bT,bU,bV,bW,bX,bY,bZ,wHV,cMV,cSD,bS,cPPV,dWC
kNEGATIVE CIRCLED LATIN CAPITAL LETTER A,bB,bC,bD,bE,bF,bG,bH,bI,bJ,bK,bL,bM,bN,bO,bP,bQ,bR,bS,bT
bU,bV,bW,bX,bY,bZ,zoRAISED MC SIGN,gD SIGN,gR SIGN,oCIRCLED CC,b WITH OVERLAID BACKSLASH
zaHUMAN FIGURE,uNEGATIVE SQUARED LATIN CAPITAL LETTER A,bB,bC,bD,bE,bF,bG,bH,bI,bJ,bK,bL,bM,bN,bO
bP,bQ,bR,bS,bT,bU,bV,bW,bX,bY,bZ,zoCROSSED NEGATIVE SQUARED LATIN CAPITAL LETTER P
zwNEGATIVE SQUARED IC,cPA,cSA,cAB,cWC,tSQUARE DJ,dD CL,bOOL,eFREE,eID,cNEW,cG,cOK,cSOS
dUP WITH EXCLAMATION MARK,yVS,cTHREE D,hSECOND SCREEN,nTWO K,fFOUR K,gEIGHT K,hFIVE POINT ONE
oSEVEN POINT ONE,pTWENTY-TWO POINT TWO,uSIXTY P,hONE HUNDRED TWENTY P,uLATIN SMALL LETTER D,uHC,bDR
cI-RES,gLOSSLESS,iSHV,dUHD,dVOD,lMASK WORK SYMBOL,+56,qREGIONAL INDICATOR SYMBOL LETTER A,bB,bC,bD
bE,bF,bG,bH,bI,bJ,bK,bL,bM,bN,bO,bP,bQ,bR,bS,bT,bU,bV,bW,bX,bY,bZ,zjSQUARE HIRAGANA HOKA
oD KATAKANA KOKO,eSA,+13,lCJK UNIFIED IDEOGRAPH-624B,e5B57,d3CC,zbKATAKANA DE
lCJK UNIFIED IDEOGRAPH-4E8C,e591A,e89E3,e5929,e4EA4,e6620,e7121,e6599,e524D,dF8C,d18D,e65B0,e521D
e7D42,d51F,e8CA9,e58F0,d439,e6F14,d295,d355,e4E00,b9,e904A,e5DE6,e4E2D,e53F3,e6307,e8D70,e6253
e7981,dA7A,e5408,e6E80,d709,b8,e7533,e5272,d5B6,e914D,+4
zjTORTOISE SHELL BRACKETED CJK UNIFIED IDEOGRAPH-672C,e4E09,c8C,e5B89,e70B9,e6253,e76D7,e52DD,e6557
+7,zzbCIRCLED IDEOGRAPH ADVANTAGE,iCCEPT,+14,yROUNDED SYMBOL FOR FU,cLU,cSHOU,eXI,cSHUANGXI,iCAI
+154,wCYCLONE,hFOGGY,fCLOSED UMBRELLA,pNIGHT WITH STARS,qSUNRISE OVER MOUNTAINS,p
hCITYSCAPE AT DUSK,rSUNSET OVER BUILDINGS,vRAINBOW,hBRIDGE AT NIGHT,pWATER WAVE,kVOLCANO,hMILKY WAY
jEARTH GLOBE EUROPE-AFRICA,nAMERICAS,hSIA-AUSTRALIA,zbGLOBE WITH MERIDIANS,uNEW MOON SYMBOL
pWAXING CRESCENT MOON SYMBOL,zcFIRST QUARTER MOON SYMBOL,zaWAXING GIBBOUS MOON SYMBOL
zbFULL MOON SYMBOL,qWANING GIBBOUS MOON SYMBOL,zbLAST QUARTER MOON SYMBOL
yWANING CRESCENT MOON SYMBOL,zcCRESCENT MOON,nNEW MOON WITH FACE,sFIRST QUARTER MOON WITH FACE
zdLAST QUARTER MOON WITH FACE,zcFULL MOON WITH FACE,tSUN WITH FACE,nGLOWING STAR,mSHOOTING STAR
nTHERMOMETER,lBLACK DROPLET,nWHITE SUN,a WITH SMALL CLOUD,qBEHIND CLOUD,a WITH RAIN
zhCLOUD WITH RAIN,eSNOW,eLIGHTNING,jTORNADO,sFOG,dWIND BLOWING FACE,rHOT DOG,hTACO,eBURRITO
hCHESTNUT,iSEEDLING,iEVERGREEN TREE,oDECIDUOUS TREE,oPALM TREE,jCACTUS,gHOT PEPPER,kTULIP
fCHERRY BLOSSOM,oROSE,eHIBISCUS,iSUNFLOWER,jBLOSSOM,hEAR OF MAIZE,fRICE,lHERB,eFOUR LEAF CLOVER
qMAPLE LEAF,kFALLEN LEAF,lLEAF FLUTTERING IN WIND,xMUSHROOM,iTOMATO,gAUBERGINE,jGRAPES,gMELON
fWATERMELON,kTANGERINE,jLEMON,fBANANA,gPINEAPPLE,jRED APPLE,jGREEN APPLE,lPEAR,bCH,fCHERRIES
iSTRAWBERRY,kHAMBURGER,jSLICE OF PIZZA,oMEAT ON BONE,mPOULTRY LEG,lRICE CRACKER,hBALL,jCOOKED RICE
kURRY AND RICE,oSTEAMING BOWL,mPAGHETTI,jBREAD,fFRENCH FRIES,mROASTED SWEET POTATO,uDANGO,fODEN
eSUSHI,fFRIED SHRIMP,lISH CAKE WITH SWIRL DESIGN,zcSOFT ICE CREAM,nHAVED ICE,kICE CREAM,jDOUGHNUT
iCOOKIE,fHOCOLATE BAR,mANDY,fLOLLIPOP,iCUSTARD,hHONEY POT,jSHORTCAKE,jBENTO BOX,jPOT OF FOOD
lCOOKING,hFORK AND KNIFE,oTEACUP WITHOUT HANDLE,vSAKE BOTTLE AND CUP,tWINE GLASS,kCOCKTAIL GLASS
oTROPICAL DRINK,oBEER MUG,iCLINKING BEER MUGS,sBABY BOTTLE,lFORK AND KNIFE WITH PLATE
zaBOTTLE WITH POPPING CORK,yPOPCORN,hRIBBON,gWRAPPED PRESENT,pBIRTHDAY CAKE,nJACK-O-LANTERN
oCHRISTMAS TREE,oFATHER CHRISTMAS,pIREWORKS,b SPARKLER,rBALLOON,hPARTY POPPER,mCONFETTI BALL
nTANABATA TREE,nCROSSED FLAGS,nPINE DECORATION,pJAPANESE DOLLS,oCARP STREAMER,nWIND CHIME
kMOON VIEWING CEREMONY,vSCHOOL SATCHEL,oGRADUATION CAP,oHEART WITH TIP ON THE LEFT
zbBOUQUET OF FLOWERS,sMILITARY MEDAL,oREMINDER RIBBON,pMUSICAL KEYBOARD WITH JACKS
zcSTUDIO MICROPHONE,rLEVEL SLIDER,mCONTROL KNOBS,nBEAMED ASCENDING MUSICAL NOTES
xDESCENDING MUSICAL NOTES,zgFILM FRAMES,lADMISSION TICKETS,rCAROUSEL HORSE,oFERRIS WHEEL
mROLLER COASTER,oFISHING POLE AND FISH,vMICROPHONE,jOVIE CAMERA,mCINEMA,gHEADPHONE,jARTIST PALETTE
oTOP HAT,hCIRCUS TENT,lTICKET,gCLAPPER BOARD,nPERFORMING ARTS,pVIDEO GAME,kDIRECT HIT,kSLOT MACHINE
mBILLIARDS,jGAME DIE,iBOWLING,hFLOWER PLAYING CARDS,uMUSICAL NOTE,kLTIPLE MUSICAL NOTES,wSAXOPHONE
jGUITAR,gMUSICAL KEYBOARD,qTRUMPET,hVIOLIN,gMUSICAL SCORE,nRUNNING SHIRT WITH SASH
xTENNIS RACQUET AND BALL,xSKI AND SKI BOOT,qBASKETBALL AND HOOP,tCHEQUERED FLAG,oSNOWBOARDER
lRUNNER,gSURFER,fPORTS MEDAL,mTROPHY,gHORSE RACING,mAMERICAN FOOTBALL,rRUGBY FOOTBALL,oSWIMMER
hWEIGHT LIFTER,nGOLFER,gRACING MOTORCYCLE,kCAR,kCRICKET BAT AND BALL,uVOLLEYBALL
kFIELD HOCKEY STICK AND BALL,zcICE HOCKEY STICK AND PUCK,zaTABLE TENNIS PADDLE AND BALL
zdSNOW CAPPED MOUNTAIN,uCAMPING,hBEACH WITH UMBRELLA,sUILDING CONSTRUCTION,vHOUSE BUILDINGS
pCITYSCAPE,jDERELICT HOUSE BUILDING,xCLASSICAL BUILDING,sDESERT,a ISLAND,nNATIONAL PARK,nSTADIUM
hHOUSE BUILDING,iWITH GARDEN,rOFFICE BUILDING,pJAPANESE POST OFFICE,uEUROPEAN POST OFFICE,uHOSPITAL
iBANK,eAUTOMATED TELLER MACHINE,yHOTEL,fLOVE HOTEL,kCONVENIENCE STORE,rSCHOOL,gDEPARTMENT STORE
qFACTORY,hIZAKAYA LANTERN,pJAPANESE CASTLE,pEUROPEAN CASTLE,pWHITE PENNANT,nBLACK PENNANT
nWAVING WHITE FLAG,kBLACK FLAG,rROSETTE,hBLACK ROSETTE,nLABEL,fBADMINTON RACQUET AND SHUTTLECOCK
zhOW AND ARROW,nAMPHORA,hEMOJI MODIFIER FITZPATRICK TYPE-1-2,d3,b4,b5,b6,ziRAT,dMOUSE,fOX
cWATER BUFFALO,nCOW,dTIGER,fLEOPARD,hRABBIT,gCAT,dDRAGON,gCROCODILE,jWHALE,fSNAIL,cKE,fHORSE,fRAM
dGOAT,eSHEEP,fMONKEY,gROOSTER,hCHICKEN,hDOG,dPIG,dBOAR,eELEPHANT,iOCTOPUS,hSPIRAL SHELL,mBUG,dANT
dHONEYBEE,iLADY BEETLE,lFISH,eTROPICAL FISH,nBLOWFISH,iTURTLE,gHATCHING CHICK,oBABY CHICK
kFRONT-FACING BABY CHICK,xBIRD,ePENGUIN,hKOALA,fPOODLE,gDROMEDARY CAMEL,pBACTRIAN CAMEL,oDOLPHIN
hMOUSE FACE,kCOW FACE,iTIGER FACE,kRABBIT FACE,lCAT FACE,iDRAGON FACE,lSPOUTING WHALE,oHORSE FACE
kMONKEY FACE,lDOG FACE,iPIG FACE,iFROG FACE,jHAMSTER FACE,mWOLF FACE,jBEAR FACE,jPANDA FACE
jIG NOSE,hAW PRINTS,kCHIPMUNK,iEYES,b,cAR,dNOSE,eMOUTH,fTONGUE,gWHITE UP POINTING BACKHAND INDEX
zbDOWN POINTING BACKHAND INDEX,zdLEFT POINTING BACKHAND INDEX,zdRIGHT POINTING BACKHAND INDEX
zkFISTED HAND SIGN,qWAVING HAND SIGN,qOK HAND SIGN,mTHUMBS UP SIGN,hDOWN SIGN,qCLAPPING HANDS SIGN
tOPEN HANDS SIGN,pCROWN,fWOMANS HAT,kEYEGLASSES,kNECKTIE,hT-SHIRT,hJEANS,fDRESS,fKIMONO,gBIKINI
gWOMANS CLOTHES,oPURSE,fHANDBAG,hPOUCH,fMANS SHOE,jATHLETIC SHOE,nHIGH-HEELED SHOE,qWOMANS SANDAL
gBOOTS,mFOOTPRINTS,kBUST IN SILHOUETTE,oS IN SILHOUETTE,sOY,dGIRL,eMAN,dWOMAN,fFAMILY
gMAN AND WOMAN HOLDING HANDS,zcTWO MEN HOLDING HANDS,rWOMEN HOLDING HANDS,xPOLICE OFFICER
oWOMAN WITH BUNNY EARS,vBRIDE WITH VEIL,pPERSON WITH BLOND HAIR,wMAN WITH GUA PI MAO,kTURBAN
pOLDER MAN,dWOMAN,lBABY,eCONSTRUCTION WORKER,tPRINCESS,iJAPANESE OGRE,eGOBLIN,pGHOST,fBABY ANGEL
kEXTRATERRESTRIAL ALIEN,wALIEN MONSTER,nIMP,dSKULL,fINFORMATION DESK PERSON,xGUARDSMAN,jDANCER
gLIPSTICK,iNAIL POLISH,lFACE MASSAGE,mHAIRCUT,hBARBER POLE,lSYRINGE,hPILL,eKISS MARK,jLOVE LETTER
lRING,eGEM STONE,jKISS,eBOUQUET,hCOUPLE WITH HEART,rWEDDING,hBEATING HEART,mROKEN HEART,mTWO HEARTS
kSPARKLING HEART,pGROWING HEART,nHEART WITH ARROW,qBLUE HEART,kGREEN HEART,lYELLOW HEART
mPURPLE HEART,mHEART WITH RIBBON,rREVOLVING HEARTS,qHEART DECORATION
qDIAMOND SHAPE WITH A DOT INSIDE,zgELECTRIC LIGHT BULB,tANGER SYMBOL,mBOMB,eSLEEPING SYMBOL
pCOLLISION SYMBOL,qSPLASHING SWEAT SYMBOL,wDROPLET,gASH SYMBOL,lPILE OF POO,lFLEXED BICEPS
nDIZZY SYMBOL,mSPEECH BALLOON,oTHOUGHT BALLOON,pWHITE FLOWER,mHUNDRED POINTS SYMBOL,vMONEY BAG
jCURRENCY EXCHANGE,rHEAVY DOLLAR SIGN,rCREDIT CARD,lBANKNOTE WITH YEN SIGN,iDOLLAR SIGN,lEURO SIGN
jPOUND SIGN,yMONEY WITH WINGS,qCHART WITH UPWARDS TREND AND YEN SIGN,zmSEAT,ePERSONAL COMPUTER
rBRIEFCASE,jMINIDISC,iFLOPPY DISK,lOPTICAL DISC,mDVD,dFILE FOLDER,lOPEN FILE FOLDER,qPAGE WITH CURL
jFACING UP,oCALENDAR,iTEAR-OFF CALENDAR,rCARD INDEX,jHART WITH UPWARDS TREND,nDOWNWARDS TREND
zbBAR CHART,jCLIPBOARD,jPUSHPIN,hROUND PUSHPIN,nPAPERCLIP,jSTRAIGHT RULER,oTRIANGULAR RULER
qBOOKMARK TABS,nLEDGER,gNOTEBOOK,a WITH DECORATIVE COVER,zfCLOSED BOOK,lOPEN BOOK,jGREEN BOOK
kBLUE BOOK,jORANGE BOOK,lBOOKS,fNAME BADGE,kSCROLL,gMEMO,eTELEPHONE RECEIVER,sPAGER,fFAX MACHINE
lSATELLITE ANTENNA,rPUBLIC ADDRESS LOUDSPEAKER,zbCHEERING MEGAPHONE,sOUTBOX TRAY,lINBOX TRAY
kPACKAGE,hE-MAIL SYMBOL,nINCOMING ENVELOPE,rENVELOPE WITH DOWNWARDS ARROW ABOVE
zkCLOSED MAILBOX WITH LOWERED FLAG,mRAISED FLAG,zgOPEN MAILBOX WITH RAISED FLAG,lLOWERED FLAG
zfPOSTBOX,dAL HORN,lNEWSPAPER,jMOBILE PHONE,a WITH RIGHTWARDS ARROW AT LEFT,zrVIBRATION MODE
oMOBILE PHONE OFF,qNO MOBILE PHONES,qANTENNA WITH BARS,rCAMERA,a WITH FLASH,rVIDEO CAMERA
mTELEVISION,kRADIO,fVIDEOCASSETTE,nFILM PROJECTOR,oPORTABLE STEREO,oRAYER BEADS
mTWISTED RIGHTWARDS ARROWS,zaCLOCKWISE RIGHTWARDS AND LEFTWARDS OPEN CIRCLE ARROWS
a WITH CIRCLED ONE OVERLAY,zzsDOWNWARDS AND UPWARDS OPEN CIRCLE ARROWS
zzaANTICLOCKWISE DOWNWARDS AND UPWARDS OPEN CIRCLE ARROWS,zzeLOW BRIGHTNESS SYMBOL
vHIGH BRIGHTNESS SYMBOL,wSPEAKER WITH CANCELLATION STROKE,za,a WITH ONE SOUND WAVE
oTHREE SOUND WAVES,zfBATTERY,hELECTRIC PLUG,nLEFT-POINTING MAGNIFYING GLASS
zfRIGHT-POINTING MAGNIFYING GLASS,zgLOCK WITH INK PEN,rCLOSED LOCK WITH KEY,uKEY,dLOCK,eOPEN LOCK
jBELL,a WITH CANCELLATION STROKE,zdOOKMARK,iLINK SYMBOL,lRADIO BUTTON
mBACK WITH LEFTWARDS ARROW ABOVE,zgEND WITH LEFTWARDS ARROW ABOVE
zfON WITH EXCLAMATION MARK WITH LEFT RIGHT ARROW ABOVE,zzcSOON WITH RIGHTWARDS ARROW ABOVE
zhTOP WITH UPWARDS ARROW ABOVE,zdNO ONE UNDER EIGHTEEN SYMBOL,zdKEYCAP TEN
kINPUT SYMBOL FOR LATIN CAPITAL LETTERS,pSMALL LETTERS,tNUMBERS,hSYMBOLS,hLATIN LETTERS,zfFIRE
eELECTRIC TORCH,oWRENCH,gHAMMER,gNUT AND BOLT,mHOCHO,fPISTOL,gMICROSCOPE,kTELESCOPE,jCRYSTAL BALL
mSIX POINTED STAR WITH MIDDLE DOT,zhJAPANESE SYMBOL FOR BEGINNER,zdTRIDENT EMBLEM
oBLACK SQUARE BUTTON,tWHITE SQUARE BUTTON,tLARGE RED CIRCLE,kBLUE CIRCLE,lORANGE DIAMOND
oBLUE DIAMOND,sSMALL ORANGE DIAMOND,oBLUE DIAMOND,sUP-POINTING RED TRIANGLE
yDOWN-POINTING RED TRIANGLE,zbUP-POINTING SMALL RED TRIANGLE,zfDOWN-POINTING SMALL RED TRIANGLE
zhLOWER RIGHT SHADOWED WHITE CIRCLE,ziUPPER RIGHT SHADOWED WHITE CIRCLE,ziCIRCLED CROSS POMMEE
tROSS POMMEE WITH HALF-CIRCLE BELOW,x,mNOTCHED LEFT SEMICIRCLE WITH THREE DOTS
zgRIGHT SEMICIRCLE WITH THREE DOTS,zpSYMBOL FOR MARKS CHAPTER,yWHITE LATIN CROSS,rHEAVY LATIN CROSS
rCELTIC CROSS,mOM SYMBOL,jDOVE OF PEACE,nKAABA,fMOSQUE,gSYNAGOGUE,jMENORAH WITH NINE BRANCHES
zbBOWL OF HYGIEIA,pCLOCK FACE ONE OCLOCK,kTWO OCLOCK,jHREE OCLOCK,mFOUR OCLOCK,kIVE OCLOCK
lSIX OCLOCK,jEVEN OCLOCK,mEIGHT OCLOCK,mNINE OCLOCK,lTEN OCLOCK,kELEVEN OCLOCK,nTWELVE OCLOCK
nONE-THIRTY,kTWO-THIRTY,jHREE-THIRTY,mFOUR-THIRTY,kIVE-THIRTY,lSIX-THIRTY,jEVEN-THIRTY
mEIGHT-THIRTY,mNINE-THIRTY,lTEN-THIRTY,kELEVEN-THIRTY,nTWELVE-THIRTY,yRIGHT SPEAKER
a WITH ONE SOUND WAVE,oTHREE SOUND WAVES,zlBULLHORN,a WITH SOUND WAVES,zaRINGING BELL,mBOOK,eCANDLE
gMANTELPIECE CLOCK,rBLACK SKULL AND CROSSBONES,zbNO PIRACY,jHOLE,eMAN IN BUSINESS SUIT LEVITATING
zgSLEUTH OR SPY,nDARK SUNGLASSES,pSPIDER,a WEB,kJOYSTICK,iMAN DANCING,lLEFT HAND TELEPHONE RECEIVER
zdTELEPHONE RECEIVER WITH PAGE,zdRIGHT HAND TELEPHONE RECEIVER,zeWHITE TOUCHTONE TELEPHONE
zaBLACK TOUCHTONE TELEPHONE,zaTELEPHONE ON TOP OF MODEM,zaCLAMSHELL MOBILE PHONE,wBACK OF ENVELOPE
qSTAMPED ENVELOPE,qENVELOPE WITH LIGHTNING,xFLYING ENVELOPE,pPEN OVER STAMPED ENVELOPE
zaLINKED PAPERCLIPS,rBLACK PUSHPIN,nLOWER LEFT PENCIL,gBALLPOINT PEN,nFOUNTAIN PEN,mPAINTBRUSH
kCRAYON,qEFT WRITING HAND,rTURNED OK HAND SIGN,tRAISED HAND WITH FINGERS SPLAYED
zgEVERSED RAISED HAND WITH FINGERS SPLAYED,zhTHUMBS UP SIGN,hDOWN SIGN,qVICTORY HAND
mHAND WITH MIDDLE FINGER EXTENDED,zpAISED HAND WITH PART BETWEEN MIDDLE AND RING FINGERS
zzdWHITE DOWN POINTING LEFT HAND INDEX,zkSIDEWAYS WHITE LEFT POINTING INDEX,tRIGHT POINTING INDEX
zbBLACK LEFT POINTING INDEX,tRIGHT POINTING INDEX,zkBLACK LEFT POINTING BACKHAND INDEX
zdRIGHT POINTING BACKHAND INDEX,zkSIDEWAYS WHITE UP POINTING INDEX,rDOWN POINTING INDEX
zaBLACK UP POINTING INDEX,rDOWN POINTING INDEX,zjBLACK UP POINTING BACKHAND INDEX
zbDOWN POINTING BACKHAND INDEX,zdHEART,lDESKTOP COMPUTER,qKEYBOARD AND MOUSE
sTHREE NETWORKED COMPUTERS,zaPRINTER,gOCKET CALCULATOR,rBLACK HARD SHELL FLOPPY DISK
zdWHITE HARD SHELL FLOPPY DISK,zdSOFT SHELL FLOPPY DISK,wTAPE CARTRIDGE,oWIRED KEYBOARD
oONE BUTTON MOUSE,qTWO BUTTON MOUSE,pHREE BUTTON MOUSE,rRACKBALL,jOLD PERSONAL COMPUTER,vHARD DISK
jSCREEN,gPRINTER ICON,mFAX ICON,iOPTICAL DISC ICON,rDOCUMENT WITH TEXT,a AND PICTURE,qPICTURE
vFRAME WITH PICTURE,hTILES,fAN X,pBLACK FOLDER,mFOLDER,gOPEN FOLDER,lCARD INDEX DIVIDERS,oFILE BOX
nFILE CABINET,mEMPTY NOTE,a PAGE,cD,oNOTE,a PAGE,cD,iEMPTY DOCUMENT,iPAGE,aS,lDOCUMENT,iPAGE,aS
fWASTEBASKET,lSPIRAL NOTE PAD,iCALENDAR PAD,tDESKTOP WINDOW,oMINIMIZE,hAXIMIZE,iOVERLAP
hCLOCKWISE RIGHT AND LEFT SEMICIRCLE ARROWS,zqANCELLATION X,oINCREASE FONT SIZE SYMBOL
zaDECREASE FONT SIZE SYMBOL,zaCOMPRESSION,lOLD KEY,hROLLED-UP NEWSPAPER,tPAGE WITH CIRCLED TEXT
wSTOCK CHART,lDAGGER KNIFE,mLIPS,eSPEAKING HEAD IN SILHOUETTE,zcTHREE RAYS ABOVE,fBELOW,fLEFT
eRIGHT,qLEFT SPEECH BUBBLE,sRIGHT SPEECH BUBBLE,tTWO SPEECH BUBBLES,rHREE SPEECH BUBBLES
uLEFT THOUGHT BUBBLE,tRIGHT THOUGHT BUBBLE,uLEFT ANGER BUBBLE,rRIGHT ANGER BUBBLE,sMOOD BUBBLE
lLIGHTNING MOOD BUBBLE,h,oBALLOT BOX WITH BALLOT,pSCRIPT X,iBOX WITH SCRIPT X,pLD SCRIPT X
lX WITH BOLD SCRIPT X,zeLIGHT CHECK MARK,qBALLOT BOX WITH BOLD CHECK,zbWORLD MAP,jMOUNT FUJI
kTOKYO TOWER,lSTATUE OF LIBERTY,qILHOUETTE OF JAPAN,tMOYAI,fGRINNING FACE,a WITH SMILING EYES
zgFACE WITH TEARS OF JOY,wSMILING FACE WITH OPEN MOUTH,a AND SMILING EYES,mCOLD SWEAT
kTIGHTLY-CLOSED EYES,zjHALO,dORNS,xWINKING FACE,mSMILING FACE WITH SMILING EYES
zfFACE SAVOURING DELICIOUS FOOD,zeRELIEVED FACE,nSMILING FACE WITH HEART-SHAPED EYES,rSUNGLASSES
zaRKING FACE,nNEUTRAL FACE,mEXPRESSIONLESS FACE,tUNAMUSED FACE,nFACE WITH COLD SWEAT,uPENSIVE FACE
mCONFUSED FACE,jOUNDED FACE,pKISSING FACE,mFACE THROWING A KISS,uKISSING FACE WITH SMILING EYES
mCLOSED EYES,zeFACE WITH STUCK-OUT TONGUE,a AND WINKING EYE,lTIGHTLY-CLOSED EYES
zzaDISAPPOINTED FACE,rWORRIED FACE,mANGRY FACE,kPOUTING FACE,mCRYING FACE,lPERSEVERING FACE
qFACE WITH LOOK OF TRIUMPH,zaDISAPPOINTED BUT RELIEVED FACE,zfFROWNING FACE WITH OPEN MOUTH
zeANGUISHED FACE,oFEARFUL FACE,mWEARY FACE,kSLEEPY FACE,lTIRED FACE,kGRIMACING FACE
oLOUDLY CRYING FACE,sFACE WITH OPEN MOUTH,uHUSHED FACE,lFACE WITH OPEN MOUTH AND COLD SWEAT
zfSCREAMING IN FEAR,wASTONISHED FACE,pFLUSHED FACE,mSLEEPING FACE,nDIZZY FACE,kFACE WITHOUT MOUTH
j MEDICAL MASK,wGRINNING CAT FACE WITH SMILING EYES,zkCAT FACE WITH TEARS OF JOY
zbSMILING CAT FACE WITH OPEN MOUTH,kHEART-SHAPED EYES,zoCAT FACE WITH WRY SMILE
xKISSING CAT FACE WITH CLOSED EYES,ziPOUTING CAT FACE,qCRYING CAT FACE,pWEARY CAT FACE
oSLIGHTLY FROWNING FACE,nSMILING FACE,vUPSIDE-DOWN FACE,qFACE WITH ROLLING EYES,mNO GOOD GESTURE
pOK GESTURE,uPERSON BOWING DEEPLY,uSEE-NO-EVIL MONKEY,sHEAR-NO-EVIL MONKEY,tSPEAK-NO-EVIL MONKEY
uHAPPY PERSON RAISING ONE HAND,zePERSON RAISING BOTH HANDS IN CELEBRATION,ziFROWNING
iWITH POUTING FACE,mFOLDED HANDS,yNORTH WEST POINTING LEAF,ySOUTH WEST POINTING LEAF
yNORTH EAST POINTING LEAF,ySOUTH EAST POINTING LEAF,yTURNED NORTH WEST POINTING LEAF
ySOUTH WEST POINTING LEAF,yNORTH EAST POINTING LEAF,ySOUTH EAST POINTING LEAF
zgNORTH WEST POINTING VINE LEAF,zeSOUTH WEST POINTING VINE LEAF,zeNORTH EAST POINTING VINE LEAF
zeSOUTH EAST POINTING VINE LEAF,zeHEAVY NORTH WEST POINTING VINE LEAF
zeSOUTH WEST POINTING VINE LEAF,zeNORTH EAST POINTING VINE LEAF,zeSOUTH EAST POINTING VINE LEAF
zkNORTH WEST POINTING BUD,xSOUTH WEST POINTING BUD,xNORTH EAST POINTING BUD
xSOUTH EAST POINTING BUD,xHEAVY NORTH WEST POINTING BUD,xSOUTH WEST POINTING BUD
xNORTH EAST POINTING BUD,xSOUTH EAST POINTING BUD,zdOLLOW QUILT SQUARE ORNAMENT,a IN BLACK SQUARE
ztSOLID QUILT SQUARE ORNAMENT,a IN BLACK SQUARE,zsLEFTWARDS ROCKET,qUPWARDS ROCKET
oRIGHTWARDS ROCKET,rDOWNWARDS ROCKET,qSCRIPT LIGATURE ET ORNAMENT
zcHEAVY SCRIPT LIGATURE ET ORNAMENT,ziLIGATURE OPEN ET ORNAMENT,zaHEAVY LIGATURE OPEN ET ORNAMENT
zaAMPERSAND ORNAMENT,ySWASH AMPERSAND ORNAMENT
xANS-SERIF HEAVY DOUBLE TURNED COMMA QUOTATION MARK ORNAMENT,zlCOMMA QUOTATION MARK ORNAMENT
zlLOW DOUBLE COMMA QUOTATION MARK ORNAMENT,zzhHEAVY INTERROBANG ORNAMENT
zbSANS-SERIF INTERROBANG ORNAMENT,zgHEAVY SANS-SERIF INTERROBANG ORNAMENT,zmVERY HEAVY SOLIDUS
hREVERSE SOLIDUS,zbCHECKER BOARD,nREVERSE CHECKER BOARD,uOCKET,gHELICOPTER,kSTEAM LOCOMOTIVE
qRAILWAY CAR,lHIGH-SPEED TRAIN,a WITH BULLET NOSE,ziTRAIN,fMETRO,fLIGHT RAIL,kSTATION,hTRAM,a CAR
iBUS,dONCOMING BUS,mTROLLEYBUS,kBUS STOP,iMINIBUS,hAMBULANCE,jFIRE ENGINE,lPOLICE CAR
kONCOMING POLICE CAR,tTAXI,eONCOMING TAXI,nAUTOMOBILE,kONCOMING AUTOMOBILE,tRECREATIONAL VEHICLE
uDELIVERY TRUCK,oARTICULATED LORRY,rTRACTOR,hMONORAIL,gUNTAIN RAILWAY,qSUSPENSION RAILWAY
sMOUNTAIN CABLEWAY,rAERIAL TRAMWAY,oSHIP,eROWBOAT,hSPEEDBOAT,jHORIZONTAL TRAFFIC LIGHT
yVERTICAL TRAFFIC LIGHT,wCONSTRUCTION SIGN,rPOLICE CARS REVOLVING LIGHT,zcTRIANGULAR FLAG ON POST
xDOOR,eNO ENTRY SIGN,nSMOKING SYMBOL,oNO SMOKING SYMBOL,rPUT LITTER IN ITS PLACE SYMBOL
zfDO NOT LITTER SYMBOL,uPOTABLE WATER SYMBOL,uNON-POTABLE WATER SYMBOL,yBICYCLE,hNO BICYCLES
lBICYCLIST,jMOUNTAIN BICYCLIST,sPEDESTRIAN,kNO PEDESTRIANS,oCHILDREN CROSSING,rMENS SYMBOL
lWOMENS SYMBOL,nRESTROOM,iBABY SYMBOL,lTOILET,gWATER CLOSET,mSHOWER,gBATH,aTUB,hPASSPORT CONTROL
qCUSTOMS,hBAGGAGE CLAIM,nLEFT LUGGAGE,mTRIANGLE WITH ROUNDED CORNERS,zePROHIBITED SIGN
pCIRCLED INFORMATION SOURCE,zbBOYS SYMBOL,lGIRLS SYMBOL,mCOUCH AND LAMP,oSLEEPING ACCOMMODATION
vHOPPING BAGS,nBELLHOP BELL,kD,dPLACE OF WORSHIP,qOCTAGONAL SIGN,oSHOPPING TROLLEY,pTUPA,fPAGODA
gHINDU TEMPLE,lUT,dELEVATOR,+5,iPLAYGROUND SLIDE,qWHEEL,fRING BUOY,jHAMMER AND WRENCH,rSHIELD
gOIL DRUM,iMOTORWAY,iRAILWAY TRACK,nMOTOR BOAT,kUP-POINTING MILITARY AIRPLANE,rAIRPLANE
iSMALL AIRPLANE,zbSMALL AIRPLANE,oNORTHEAST-POINTING AIRPLANE,zcAIRPLANE DEPARTURE,jARRIVING,+3
rSATELLITE,jONCOMING FIRE ENGINE,uDIESEL LOCOMOTIVE,rPASSENGER SHIP,oSCOOTER,hMOTOR SCOOTER,nCANOE
fSLED,eFLYING SAUCER,nSKATEBOARD,kAUTO RICKSHAW,nPICKUP TRUCK,mROLLER SKATE,+3
mALCHEMICAL SYMBOL FOR QUINTESSENCE,mAIR,dFIRE,eEARTH,fWATER,fAQUAFORTIS,g REGIA,a-2,hVITAE,a-2
mVINEGAR,a-2,b3,jSULFUR,gPHILOSOPHERS SULFUR,tBLACK SULFUR,mMERCURY SUBLIMATE,a-2,b3,tCINNABAR
iSALT,eNITRE,fVITRIOL,a-2,jROCK SALT,a-2,lGOLD,eSILVER,gIRON ORE,a-2,kCROCUS OF IRON
oREGULUS OF IRON,pCOPPER ORE,kIRON-COPPER ORE,pSUBLIMATE OF COPPER,tCROCUS OF COPPER,a-2
rOPPER ANTIMONIATE,sSALT OF COPPER ANTIMONIATE,zaUBLIMATE OF SALT OF COPPER,zcVERDIGRIS,jTIN ORE
hLEAD ORE,iANTIMONY ORE,mSUBLIMATE OF ANTIMONY,uALT OF ANTIMONY,pUBLIMATE OF SALT OF ANTIMONY
zeVINEGAR OF ANTIMONY,tREGULUS OF ANTIMONY,a-2,o,a-2,b3,b4,jALKALI,a-2,iMARCASITE,jSAL-AMMONIAC
mARSENIC,hREALGAR,a-2,jAURIPIGMENT,lBISMUTH ORE,lTARTAR,a-2,iQUICK LIME,kBORAX,a-2,b3,hALUM,eOIL
dSPIRIT,gTINCTURE,iGUM,dWAX,dPOWDER,gCALX,eTUTTY,fCAPUT MORTUUM,nSCEPTER OF JOVE,pCADUCEUS,iTRIDENT
hSTARRED TRIDENT,pLODESTONE,jSOAP,eURINE,fHORSE DUNG,kASHES,fPOT ASHES,jBRICK,fPOWDERED BRICK
oAMALGAM,hSTRATUM SUPER STRATUM,a-2,wUBLIMATION,lPRECIPITATE,lDISTILL,eSOLVE,a-2,kPURIFY
eTREFACTION,mCRUCIBLE,a-2,b3,b4,b5,kALEMBIC,hBATH OF MARY,eVAPOURS,pRETORT,gHOUR,eNIGHT,fDAY-NIGHT
jMONTH,fHALF DRAM,eOUNCE,+12,zhBLACK LEFT-POINTING ISOSCELES RIGHT TRIANGLE
znUP-POINTING ISOSCELES RIGHT TRIANGLE,zlRIGHT-POINTING ISOSCELES RIGHT TRIANGLE
zoDOWN-POINTING ISOSCELES RIGHT TRIANGLE,znSLIGHTLY SMALL CIRCLE,zcMEDIUM BOLD WHITE CIRCLE
yBOLD WHITE CIRCLE,rHEAVY WHITE CIRCLE,sVERY HEAVY WHITE CIRCLE,xEXTREMELY HEAVY WHITE CIRCLE
zdWHITE CIRCLE CONTAINING BLACK SMALL CIRCLE,zrROUND TARGET,mBLACK TINY SQUARE
lSLIGHTLY SMALL SQUARE,zcLIGHT WHITE SQUARE,sMEDIUM WHITE SQUARE,tBOLD WHITE SQUARE
rHEAVY WHITE SQUARE,sVERY HEAVY WHITE SQUARE,xEXTREMELY HEAVY WHITE SQUARE
zdWHITE SQUARE CONTAINING BLACK VERY SMALL SQUARE,rMEDIUM SQUARE,zsSQUARE TARGET
nBLACK TINY DIAMOND,mVERY SMALL DIAMOND,sMEDIUM SMALL DIAMOND
zbWHITE DIAMOND CONTAINING BLACK VERY SMALL DIAMOND,sMEDIUM DIAMOND,zuDIAMOND TARGET
oBLACK TINY LOZENGE,mVERY SMALL LOZENGE,sMEDIUM SMALL LOZENGE
zbWHITE LOZENGE CONTAINING BLACK SMALL LOZENGE,ztTHIN GREEK CROSS,qLIGHT GREEK CROSS
rMEDIUM GREEK CROSS,sBOLD GREEK CROSS,qVERY BOLD GREEK CROSS,qHEAVY GREEK CROSS
wEXTREMELY HEAVY GREEK CROSS,zcTHIN SALTIRE,mLIGHT SALTIRE,nMEDIUM SALTIRE,oBOLD SALTIRE
mHEAVY SALTIRE,nVERY HEAVY SALTIRE,sEXTREMELY HEAVY SALTIRE,xLIGHT FIVE SPOKED ASTERISK
zbMEDIUM FIVE SPOKED ASTERISK,zcBOLD FIVE SPOKED ASTERISK,zaHEAVY FIVE SPOKED ASTERISK
zbVERY HEAVY FIVE SPOKED ASTERISK,zgEXTREMELY HEAVY FIVE SPOKED ASTERISK
zlLIGHT SIX SPOKED ASTERISK,zaMEDIUM SIX SPOKED ASTERISK,zbBOLD SIX SPOKED ASTERISK
yHEAVY SIX SPOKED ASTERISK,zaVERY HEAVY SIX SPOKED ASTERISK,zfEXTREMELY HEAVY SIX SPOKED ASTERISK
zkLIGHT EIGHT SPOKED ASTERISK,zcMEDIUM EIGHT SPOKED ASTERISK,zdBOLD EIGHT SPOKED ASTERISK
zbHEAVY EIGHT SPOKED ASTERISK,zcVERY HEAVY EIGHT SPOKED ASTERISK,zhLIGHT THREE POINTED BLACK STAR
zfMEDIUM THREE POINTED BLACK STAR,zgTHREE POINTED BLACK STAR,yMEDIUM THREE POINTED PINWHEEL STAR
zjLIGHT FOUR POINTED BLACK STAR,zeMEDIUM FOUR POINTED BLACK STAR,zfFOUR POINTED BLACK STAR
xMEDIUM FOUR POINTED PINWHEEL STAR,ziREVERSE LIGHT FOUR POINTED PINWHEEL STAR
zpLIGHT FIVE POINTED BLACK STAR,zeHEAVY FIVE POINTED BLACK STAR,zeMEDIUM SIX POINTED BLACK STAR
zeHEAVY SIX POINTED BLACK STAR,zdSIX POINTED PINWHEEL STAR,zaMEDIUM EIGHT POINTED BLACK STAR
zgHEAVY EIGHT POINTED BLACK STAR,zfVERY HEAVY EIGHT POINTED BLACK STAR
zkHEAVY EIGHT POINTED PINWHEEL STAR,ziLIGHT TWELVE POINTED BLACK STAR
zgHEAVY TWELVE POINTED BLACK STAR,kPINWHEEL STAR,zjCIRCLED TRIANGLE,qNEGATIVE CIRCLED TRIANGLE
zaCIRCLED SQUARE,oNEGATIVE CIRCLED SQUARE,+7,xLARGE ORANGE CIRCLE,nYELLOW CIRCLE,nGREEN CIRCLE
mPURPLE CIRCLE,nBROWN CIRCLE,mRED SQUARE,kBLUE SQUARE,lORANGE SQUARE,nYELLOW SQUARE,nGREEN SQUARE
mPURPLE SQUARE,nBROWN SQUARE,+4,sHEAVY EQUALS SIGN,+15
rLEFTWARDS ARROW WITH SMALL TRIANGLE ARROWHEAD,zuUPWARDS ARROW WITH SMALL TRIANGLE ARROWHEAD
zsRIGHTWARDS ARROW WITH SMALL TRIANGLE ARROWHEAD,zvDOWNWARDS ARROW WITH SMALL TRIANGLE ARROWHEAD
zuLEFTWARDS ARROW WITH MEDIUM TRIANGLE ARROWHEAD,zvUPWARDS ARROW WITH MEDIUM TRIANGLE ARROWHEAD
ztRIGHTWARDS ARROW WITH MEDIUM TRIANGLE ARROWHEAD,zwDOWNWARDS ARROW WITH MEDIUM TRIANGLE ARROWHEAD
zvLEFTWARDS ARROW WITH LARGE TRIANGLE ARROWHEAD,zuUPWARDS ARROW WITH LARGE TRIANGLE ARROWHEAD
zsRIGHTWARDS ARROW WITH LARGE TRIANGLE ARROWHEAD,zvDOWNWARDS ARROW WITH LARGE TRIANGLE ARROWHEAD,+4
zuLEFTWARDS ARROW WITH SMALL EQUILATERAL ARROWHEAD,zxUPWARDS ARROW WITH SMALL EQUILATERAL ARROWHEAD
zvRIGHTWARDS ARROW WITH SMALL EQUILATERAL ARROWHEAD
zyDOWNWARDS ARROW WITH SMALL EQUILATERAL ARROWHEAD,zxLEFTWARDS ARROW WITH EQUILATERAL ARROWHEAD
zrUPWARDS ARROW WITH EQUILATERAL ARROWHEAD,zpRIGHTWARDS ARROW WITH EQUILATERAL ARROWHEAD
zsDOWNWARDS ARROW WITH EQUILATERAL ARROWHEAD,zrHEAVY LEFTWARDS ARROW WITH EQUILATERAL ARROWHEAD
zrUPWARDS ARROW WITH EQUILATERAL ARROWHEAD,zpRIGHTWARDS ARROW WITH EQUILATERAL ARROWHEAD
zsDOWNWARDS ARROW WITH EQUILATERAL ARROWHEAD,zrLEFTWARDS ARROW WITH LARGE EQUILATERAL ARROWHEAD
zxUPWARDS ARROW WITH LARGE EQUILATERAL ARROWHEAD
zvRIGHTWARDS ARROW WITH LARGE EQUILATERAL ARROWHEAD
zyDOWNWARDS ARROW WITH LARGE EQUILATERAL ARROWHEAD
zzeLEFTWARDS TRIANGLE-HEADED ARROW WITH NARROW SHAFT
zyUPWARDS TRIANGLE-HEADED ARROW WITH NARROW SHAFT
zwRIGHTWARDS TRIANGLE-HEADED ARROW WITH NARROW SHAFT
zzaDOWNWARDS TRIANGLE-HEADED ARROW WITH NARROW SHAFT
zyLEFTWARDS TRIANGLE-HEADED ARROW WITH MEDIUM SHAFT
zyUPWARDS TRIANGLE-HEADED ARROW WITH MEDIUM SHAFT
zwRIGHTWARDS TRIANGLE-HEADED ARROW WITH MEDIUM SHAFT
zzaDOWNWARDS TRIANGLE-HEADED ARROW WITH MEDIUM SHAFT
zyLEFTWARDS TRIANGLE-HEADED ARROW WITH BOLD SHAFT,zwUPWARDS TRIANGLE-HEADED ARROW WITH BOLD SHAFT
zuRIGHTWARDS TRIANGLE-HEADED ARROW WITH BOLD SHAFT
zxDOWNWARDS TRIANGLE-HEADED ARROW WITH BOLD SHAFT
zwLEFTWARDS TRIANGLE-HEADED ARROW WITH HEAVY SHAFT,zxUPWARDS TRIANGLE-HEADED ARROW WITH HEAVY SHAFT
zvRIGHTWARDS TRIANGLE-HEADED ARROW WITH HEAVY SHAFT
zyDOWNWARDS TRIANGLE-HEADED ARROW WITH HEAVY SHAFT
zxLEFTWARDS TRIANGLE-HEADED ARROW WITH VERY HEAVY SHAFT
zzdUPWARDS TRIANGLE-HEADED ARROW WITH VERY HEAVY SHAFT
zzbRIGHTWARDS TRIANGLE-HEADED ARROW WITH VERY HEAVY SHAFT
zzeDOWNWARDS TRIANGLE-HEADED ARROW WITH VERY HEAVY SHAFT,zzdLEFTWARDS FINGER-POST ARROW
zcUPWARDS FINGER-POST ARROW,zaRIGHTWARDS FINGER-POST ARROW,zdDOWNWARDS FINGER-POST ARROW
zcLEFTWARDS SQUARED ARROW,xUPWARDS SQUARED ARROW,vRIGHTWARDS SQUARED ARROW,yDOWNWARDS SQUARED ARROW
xLEFTWARDS COMPRESSED ARROW,zbUPWARDS COMPRESSED ARROW,yRIGHTWARDS COMPRESSED ARROW
zcDOWNWARDS COMPRESSED ARROW,zbLEFTWARDS HEAVY COMPRESSED ARROW,zhUPWARDS HEAVY COMPRESSED ARROW
zfRIGHTWARDS HEAVY COMPRESSED ARROW,ziDOWNWARDS HEAVY COMPRESSED ARROW,zhLEFTWARDS HEAVY ARROW
vUPWARDS HEAVY ARROW,tRIGHTWARDS HEAVY ARROW,wDOWNWARDS HEAVY ARROW,+8,vLEFTWARDS SANS-SERIF ARROW
zbUPWARDS SANS-SERIF ARROW,yRIGHTWARDS SANS-SERIF ARROW,zcDOWNWARDS SANS-SERIF ARROW
zbNORTH WEST SANS-SERIF ARROW,vEAST SANS-SERIF ARROW,zcSOUTH EAST SANS-SERIF ARROW
vWEST SANS-SERIF ARROW,zcLEFT RIGHT SANS-SERIF ARROW,zcUP DOWN SANS-SERIF ARROW,+6
yWIDE-HEADED LEFTWARDS LIGHT BARB ARROW,zbUPWARDS LIGHT BARB ARROW,yRIGHTWARDS LIGHT BARB ARROW
zcDOWNWARDS LIGHT BARB ARROW,zbNORTH WEST LIGHT BARB ARROW,vEAST LIGHT BARB ARROW
zcSOUTH EAST LIGHT BARB ARROW,vWEST LIGHT BARB ARROW,zcLEFTWARDS BARB ARROW,uUPWARDS BARB ARROW
sRIGHTWARDS BARB ARROW,vDOWNWARDS BARB ARROW,uNORTH WEST BARB ARROW,pEAST BARB ARROW
vSOUTH EAST BARB ARROW,pWEST BARB ARROW,vLEFTWARDS MEDIUM BARB ARROW,zcUPWARDS MEDIUM BARB ARROW
zaRIGHTWARDS MEDIUM BARB ARROW,zdDOWNWARDS MEDIUM BARB ARROW,zcNORTH WEST MEDIUM BARB ARROW
wEAST MEDIUM BARB ARROW,zdSOUTH EAST MEDIUM BARB ARROW,wWEST MEDIUM BARB ARROW
zdLEFTWARDS HEAVY BARB ARROW,zbUPWARDS HEAVY BARB ARROW,yRIGHTWARDS HEAVY BARB ARROW
zcDOWNWARDS HEAVY BARB ARROW,zbNORTH WEST HEAVY BARB ARROW,vEAST HEAVY BARB ARROW
zcSOUTH EAST HEAVY BARB ARROW,vWEST HEAVY BARB ARROW,zcLEFTWARDS VERY HEAVY BARB ARROW
zgUPWARDS VERY HEAVY BARB ARROW,zeRIGHTWARDS VERY HEAVY BARB ARROW
zhDOWNWARDS VERY HEAVY BARB ARROW,zgNORTH WEST VERY HEAVY BARB ARROW,zbEAST VERY HEAVY BARB ARROW
zhSOUTH EAST VERY HEAVY BARB ARROW,zbWEST VERY HEAVY BARB ARROW,+8,ztLEFTWARDS TRIANGLE ARROWHEAD
zdUPWARDS TRIANGLE ARROWHEAD,zbRIGHTWARDS TRIANGLE ARROWHEAD,zeDOWNWARDS TRIANGLE ARROWHEAD
zdLEFTWARDS WHITE ARROW WITHIN TRIANGLE ARROWHEAD,zwUPWARDS WHITE ARROW WITHIN TRIANGLE ARROWHEAD
zuRIGHTWARDS WHITE ARROW WITHIN TRIANGLE ARROWHEAD
zxDOWNWARDS WHITE ARROW WITHIN TRIANGLE ARROWHEAD,zwLEFTWARDS ARROW WITH NOTCHED TAIL
ziUPWARDS ARROW WITH NOTCHED TAIL,zgRIGHTWARDS ARROW WITH NOTCHED TAIL
zjDOWNWARDS ARROW WITH NOTCHED TAIL,ziHEAVY ARROW SHAFT WIDTH ONE,dTWO THIRDS,kONE HALF,eTHIRD
ziLEFTWARDS BOTTOM-SHADED WHITE ARROW,zkRIGHTWARDS BOTTOM SHADED WHITE ARROW
zlLEFTWARDS TOP SHADED WHITE ARROW,zhRIGHTWARDS TOP SHADED WHITE ARROW
ziLEFTWARDS LEFT-SHADED WHITE ARROW,ziRIGHTWARDS RIGHT-SHADED WHITE ARROW
zkLEFTWARDS RIGHT-SHADED WHITE ARROW,zjRIGHTWARDS LEFT-SHADED WHITE ARROW
zjLEFTWARDS BACK-TILTED SHADOWED WHITE ARROW,zrRIGHTWARDS BACK-TILTED SHADOWED WHITE ARROW
zsLEFTWARDS FRONT-TILTED SHADOWED WHITE ARROW,zsRIGHTWARDS FRONT-TILTED SHADOWED WHITE ARROW
ztWHITE ARROW SHAFT WIDTH ONE,dTWO THIRDS,+2,zjARROW POINTING UPWARDS THEN NORTH WEST
xRIGHTWARDS THEN CURVING SOUTH WEST,+78,zyCIRCLED CROSS FORMEE WITH FOUR DOTS,jTWO DOTS,o
uLEFT HALF CIRCLE WITH FOUR DOTS,jTHREE DOTS,jWO DOTS,iDOT,j,qDOWNWARD FACING HOOK,eNOTCHED HOOK
mHOOK WITH DOT,nNOTCHED HOOK WITH DOT,zmPINCHED FINGERS,pWHITE HEART,lBROWN HEART,lPINCHING HAND
nZIPPER-MOUTH FACE,rMONEY-MOUTH FACE,qFACE WITH THERMOMETER,vNERD FACE,jTHINKING FACE
nFACE WITH HEAD-BANDAGE,wROBOT FACE,kHUGGING FACE,mSIGN OF THE HORNS,rCALL ME HAND
mRAISED BACK OF HAND,tLEFT-FACING FIST,qRIGHT-FACING FIST,rHANDSHAKE
f WITH INDEX AND MIDDLE FINGERS CROSSED,zrI LOVE YOU HAND SIGN,uFACE WITH COWBOY HAT,uCLOWN FACE
kNAUSEATED FACE,oROLLING ON THE FLOOR LAUGHING,zeDROOLING FACE,nLYING FACE,kFACE PALM
jSNEEZING FACE,nFACE WITH ONE EYEBROW RAISED,zdGRINNING FACE WITH STAR EYES
jONE LARGE AND ONE SMALL EYE,zvFACE WITH FINGER COVERING CLOSED LIPS
zmSERIOUS FACE WITH SYMBOLS COVERING MOUTH,zoMILING FACE WITH SMILING EYES AND HAND COVERING MOUTH
zzeFACE WITH OPEN MOUTH VOMITING,zeSHOCKED FACE WITH EXPLODING HEAD,zhPREGNANT WOMAN
oBREAST-FEEDING,oPALMS UP TOGETHER,rSELFIE,gPRINCE,gMAN IN TUXEDO,mOTHER CHRISTMAS,qSHRUG
fPERSON DOING CARTWHEEL,wJUGGLING,iFENCER,gMODERN PENTATHLON,rWRESTLERS,iATER POLO,kHANDBALL
iDIVING MASK,lWILTED FLOWER,nDRUM WITH DRUMSTICKS,uCLINKING GLASSES,qTUMBLER GLASS,nSPOON,fGOAL NET
iRIFLE,fFIRST PLACE MEDAL,rSECOND PLACE MEDAL,sTHIRD PLACE MEDAL,rBOXING GLOVE
mMARTIAL ARTS UNIFORM,uCURLING STONE,nLACROSSE STICK AND BALL,xSOFTBALL,iFLYING DISC,lCROISSANT
jAVOCADO,hCUCUMBER,iBACON,fPOTATO,gCARROT,gBAGUETTE BREAD,oGREEN SALAD,lSHALLOW PAN OF FOOD
sTUFFED FLATBREAD,rEGG,dGLASS OF MILK,nPEANUTS,hKIWIFRUIT,jPANCAKES,iDUMPLING,iFORTUNE COOKIE
oTAKEOUT BOX,lCHOPSTICKS,kBOWL WITH SPOON,pCUP WITH STRAW,nOCONUT,hBROCCOLI,iPIE,cRETZEL
hCUT OF MEAT,lSANDWICH,iCANNED FOOD,lLEAFY GREEN,lMANGO,eOON CAKE,jBAGEL
fSMILING FACE WITH SMILING EYES AND THREE HEARTS,zwYAWNING FACE,mSMILING FACE WITH TEAR
wFACE WITH PARTY HORN AND PARTY HAT,yUNEVEN EYES AND WAVY MOUTH,zlOVERHEATED FACE,pFREEZING FACE
nNINJA,fDISGUISED FACE,oFACE HOLDING BACK TEARS,sWITH PLEADING EYES,xSARI,eLAB COAT,iGOGGLES
hHIKING BOOT,lFLAT SHOE,jCRAB,eLION FACE,jSCORPION,iTURKEY,gUNICORN FACE,mEAGLE,fDUCK,eBAT,dSHARK
fOWL,dFOX FACE,iBUTTERFLY,jDEER,eGORILLA,hLIZARD,gRHINOCEROS,kSHRIMP,fQUID,fGIRAFFE FACE
mZEBRA FACE,kHEDGEHOG,iSAUROPOD,iT-REX,fCRICKET,hKANGAROO,iLLAMA,fPEACOCK,hHIPPOPOTAMUS,mPARROT
gRACCOON,hLOBSTER,hMOSQUITO,hICROBE,hBADGER,gSWAN,eMAMMOTH,hDODO,eSLOTH,fOTTER,eRANGUTAN,jSKUNK
fFLAMINGO,iOYSTER,gBEAVER,fISON,fSEAL,eGUIDE DOG,jPROBING CANE,mEMOJI COMPONENT RED HAIR
iCURLY HAIR,kBALD,eWHITE HAIR,zbBONE,eLEG,dFOOT,eTOOTH,fSUPERHERO,eVILLAIN,lAFETY VEST
lEAR WITH HEARING AID,uMOTORIZED WHEELCHAIR,tANUAL WHEELCHAIR,qECHANICAL ARM,dLEG,oCHEESE WEDGE
lUPCAKE,hSALT SHAKER,lBEVERAGE BOX,mGARLIC,gONION,fFALAFEL,hWAFFLE,gBUTTER,gMATE DRINK,kICE CUBE
iBUBBLE TEA,kTROLL,fSTANDING PERSON,pKNEELING PERSON,pDEAF PERSON,lFACE WITH MONOCLE,rADULT,fCHILD
fOLDER ADULT,lBEARDED PERSON,oPERSON WITH HEADSCARF,oIN STEAMY ROOM,oCLIMBING,iIN LOTUS POSITION
yMAGE,eFAIRY,fVAMPIRE,hMERPERSON,jELF,dGENIE,fZOMBIE,gBRAIN,fORANGE HEART,mBILLED CAP,kSCARF
fGLOVES,gCOAT,eSOCKS,fRED GIFT ENVELOPE,rFIRECRACKER,lJIGSAW PUZZLE PIECE,tTEST TUBE,jPETRI DISH
kDNA DOUBLE HELIX,qCOMPASS,hABACUS,gFIRE EXTINGUISHER,rTOOLBOX,hBRICK,fMAGNET,gLUGGAGE
gOTION BOTTLE,nSPOOL OF THREAD,pBALL OF YARN,mSAFETY PIN,kTEDDY BEAR,kBROOM,eASKET,gROLL OF PAPER
nBAR OF SOAP,lSPONGE,gRECEIPT,hNAZAR AMULET,lEUTRAL CHESS KING,eQUEEN,fROOK,eBISHOP,gKNIGHT,gPAWN
sWHITE CHESS KNIGHT ROTATED FORTY-FIVE DEGREES,zuBLACK CHESS KNIGHT ROTATED FORTY-FIVE DEGREES
zuNEUTRAL CHESS KNIGHT ROTATED FORTY-FIVE DEGREES,zwWHITE CHESS KING ROTATED NINETY DEGREES
zcQUEEN ROTATED NINETY DEGREES,zdROOK ROTATED NINETY DEGREES,zcBISHOP ROTATED NINETY DEGREES
zeKNIGHT ROTATED NINETY DEGREES,zePAWN ROTATED NINETY DEGREES
zoBLACK CHESS KING ROTATED NINETY DEGREES,zcQUEEN ROTATED NINETY DEGREES
zdROOK ROTATED NINETY DEGREES,zcBISHOP ROTATED NINETY DEGREES,zeKNIGHT ROTATED NINETY DEGREES
zePAWN ROTATED NINETY DEGREES,zoNEUTRAL CHESS KING ROTATED NINETY DEGREES
zcQUEEN ROTATED NINETY DEGREES,zdROOK ROTATED NINETY DEGREES,zcBISHOP ROTATED NINETY DEGREES
zeKNIGHT ROTATED NINETY DEGREES,zePAWN ROTATED NINETY DEGREES
zqWHITE CHESS KNIGHT ROTATED ONE HUNDRED THIRTY-FIVE DEGREES
zziBLACK CHESS KNIGHT ROTATED ONE HUNDRED THIRTY-FIVE DEGREES
zziNEUTRAL CHESS KNIGHT ROTATED ONE HUNDRED THIRTY-FIVE DEGREES,zzkWHITE CHESS TURNED KING,eQUEEN
fROOK,eBISHOP,gKNIGHT,gPAWN,xBLACK CHESS TURNED KING,eQUEEN,fROOK,eBISHOP,gKNIGHT,gPAWN
xNEUTRAL CHESS TURNED KING,eQUEEN,fROOK,eBISHOP,gKNIGHT,gPAWN
zaWHITE CHESS KNIGHT ROTATED TWO HUNDRED TWENTY-FIVE DEGREES
zziBLACK CHESS KNIGHT ROTATED TWO HUNDRED TWENTY-FIVE DEGREES
zziNEUTRAL CHESS KNIGHT ROTATED TWO HUNDRED TWENTY-FIVE DEGREES
zzkWHITE CHESS KING ROTATED TWO HUNDRED SEVENTY DEGREES,zpQUEEN ROTATED TWO HUNDRED SEVENTY DEGREES
zqROOK ROTATED TWO HUNDRED SEVENTY DEGREES,zpBISHOP ROTATED TWO HUNDRED SEVENTY DEGREES
zrKNIGHT ROTATED TWO HUNDRED SEVENTY DEGREES,zrPAWN ROTATED TWO HUNDRED SEVENTY DEGREES
zzcBLACK CHESS KING ROTATED TWO HUNDRED SEVENTY DEGREES,zpQUEEN ROTATED TWO HUNDRED SEVENTY DEGREES
zqROOK ROTATED TWO HUNDRED SEVENTY DEGREES,zpBISHOP ROTATED TWO HUNDRED SEVENTY DEGREES
zrKNIGHT ROTATED TWO HUNDRED SEVENTY DEGREES,zrPAWN ROTATED TWO HUNDRED SEVENTY DEGREES
zzcNEUTRAL CHESS KING ROTATED TWO HUNDRED SEVENTY DEGREES
zpQUEEN ROTATED TWO HUNDRED SEVENTY DEGREES,zqROOK ROTATED TWO HUNDRED SEVENTY DEGREES
zpBISHOP ROTATED TWO HUNDRED SEVENTY DEGREES,zrKNIGHT ROTATED TWO HUNDRED SEVENTY DEGREES
zrPAWN ROTATED TWO HUNDRED SEVENTY DEGREES
zzeWHITE CHESS KNIGHT ROTATED THREE HUNDRED FIFTEEN DEGREES
zzgBLACK CHESS KNIGHT ROTATED THREE HUNDRED FIFTEEN DEGREES
zzgNEUTRAL CHESS KNIGHT ROTATED THREE HUNDRED FIFTEEN DEGREES,zziWHITE CHESS EQUIHOPPER
wBLACK CHESS EQUIHOPPER,wNEUTRAL CHESS EQUIHOPPER,yWHITE CHESS EQUIHOPPER ROTATED NINETY DEGREES
zuBLACK CHESS EQUIHOPPER ROTATED NINETY DEGREES,zuNEUTRAL CHESS EQUIHOPPER ROTATED NINETY DEGREES
zwWHITE CHESS KNIGHT-QUEEN,fROOK,eBISHOP,zaBLACK CHESS KNIGHT-QUEEN,fROOK,eBISHOP,+12
zaXIANGQI RED GENERAL,hMANDARIN,iELEPHANT,iHORSE,fCHARIOT,gANNON,gSOLDIER,lBLACK GENERAL,hMANDARIN
iELEPHANT,iHORSE,fCHARIOT,gANNON,gSOLDIER,+2,vBALLET SHOES,mONE-PIECE SWIMSUIT,sBRIEFS,gSHORTS
gTHONG SANDAL,+3,mDROP OF BLOOD,nADHESIVE BANDAGE,qSTETHOSCOPE,lX-RAY,fCRUTCH,+3,gYO-YO,fKITE
ePARACHUTE,jBOOMERANG,jMAGIC WAND,kPINATA,gNESTING DOLLS,+9,nRINGED PLANET,nCHAIR,fRAZOR,fAXE
dDIYA LAMP,jBANJO,fMILITARY HELMET,pACCORDION,jLONG DRUM,jCOIN,dARPENTRY SAW,nSCREWDRIVER,lLADDER
gHOOK,eMIRROR,gWINDOW,gPLUNGER,hSEWING NEEDLE,nKNOT,eBUCKET,gMOUSE TRAP,kTOOTHBRUSH,kHEADSTONE
jPLACARD,hROCK,eMIRROR BALL,lIDENTIFICATION CARD,tLOW BATTERY,lHAMSA,+3,fFLY,dWORM,eBEETLE
gCOCKROACH,jPOTTED PLANT,mWOOD,eFEATHER,hLOTUS,fCORAL,fEMPTY NEST,kNEST WITH EGGS,+5
oANATOMICAL HEART,qLUNGS,fPEOPLE HUGGING,nREGNANT MAN,dPERSON,oERSON WITH CROWN,+10,rBLUEBERRIES
kELL PEPPER,lOLIVE,fFLATBREAD,jTAMALE,gFONDUE,gTEAPOT,gPOURING LIQUID,oBEANS,fJAR,+6,dMELTING FACE
mSALUTING FACE,nFACE WITH OPEN EYES AND HAND OVER MOUTH,zePEEKING EYE,lDIAGONAL MOUTH
yDOTTED LINE FACE,qBITING LIP,jUBBLES,+8,hHAND WITH INDEX FINGER AND THUMB CROSSED
zpRIGHTWARDS HAND,pLEFTWARDS HAND,oPALM DOWN HAND,jUP HAND,mINDEX POINTING AT THE VIEWER
zdHEART HANDS,+9,lBLOCK SEXTANT-1,b2,b12,c3,b13,c23,c123,d4,b14,c24,c124,d34,c134,d234,d1234,e5,b15
c25,c125,d35,c235,d1235,e45,c145,d245,d1245,e345,d1345,e2345,e12345,f6,b16,c26,c126,d36,c136,d236
d1236,e46,c146,c246,e346,d1346,e2346,e12346,f56,c156,d256,d1256,e356,d1356,e2356,e12356,f456,d1456
e2456,e12456,f3456,e13456,f23456,tLOWER LEFT BLOCK DIAGONAL LOWER MIDDLE LEFT TO LOWER CENTRE
gRIGHT,zhUPPER MIDDLE LEFT TO LOWER CENTRE,gRIGHT,zbLEFT TO LOWER CENTRE
zvRIGHT BLOCK DIAGONAL UPPER MIDDLE LEFT TO UPPER CENTRE,gRIGHT,zhLOWER MIDDLE LEFT TO UPPER CENTRE
gRIGHT,zbLEFT TO UPPER CENTRE,uMIDDLE LEFT TO UPPER MIDDLE RIGHT,ziCENTRE TO LOWER MIDDLE RIGHT
zdLEFT TO LOWER MIDDLE RIGHT,zbCENTRE TO UPPER MIDDLE RIGHT,zdLEFT TO UPPER MIDDLE RIGHT
zbCENTRE TO UPPER RIGHT,zxLEFT BLOCK DIAGONAL UPPER CENTRE TO UPPER MIDDLE RIGHT
zdLEFT TO UPPER MIDDLE RIGHT,zbCENTRE TO LOWER MIDDLE RIGHT,zdLEFT TO LOWER MIDDLE RIGHT
zbCENTRE TO LOWER RIGHT,vMIDDLE LEFT TO LOWER MIDDLE RIGHT
zzpUPPER RIGHT BLOCK DIAGONAL LOWER MIDDLE LEFT TO LOWER CENTRE,gRIGHT
zhUPPER MIDDLE LEFT TO LOWER CENTRE,gRIGHT,zbLEFT TO LOWER CENTRE
zwLEFT BLOCK DIAGONAL UPPER MIDDLE LEFT TO UPPER CENTRE,gRIGHT,zhLOWER MIDDLE LEFT TO UPPER CENTRE
gRIGHT,zbLEFT TO UPPER CENTRE,uMIDDLE LEFT TO UPPER MIDDLE RIGHT,ziCENTRE TO LOWER MIDDLE RIGHT
zdLEFT TO LOWER MIDDLE RIGHT,zbCENTRE TO UPPER MIDDLE RIGHT,zdLEFT TO UPPER MIDDLE RIGHT
zbCENTRE TO UPPER RIGHT,zwRIGHT BLOCK DIAGONAL UPPER CENTRE TO UPPER MIDDLE RIGHT
zdLEFT TO UPPER MIDDLE RIGHT,zbCENTRE TO LOWER MIDDLE RIGHT,zdLEFT TO LOWER MIDDLE RIGHT
zbCENTRE TO LOWER RIGHT,vMIDDLE LEFT TO LOWER MIDDLE RIGHT
zzkAND RIGHT AND LOWER TRIANGULAR THREE QUARTERS BLOCK
zzhLEFT AND LOWER AND RIGHT TRIANGULAR THREE QUARTERS BLOCK
zzgUPPER AND LEFT AND LOWER TRIANGULAR THREE QUARTERS BLOCK
zzgLEFT AND UPPER AND RIGHT TRIANGULAR THREE QUARTERS BLOCK,zzbTRIANGULAR ONE QUARTER BLOCK
ziUPPER TRIANGULAR ONE QUARTER BLOCK,zjRIGHT TRIANGULAR ONE QUARTER BLOCK
zjLOWER TRIANGULAR ONE QUARTER BLOCK,zjVERTICAL ONE EIGHTH BLOCK-2,b3,b4,b5,b6,b7
zcHORIZONTAL ONE EIGHTH BLOCK-2,b3,b4,b5,b6,b7,zeLEFT AND LOWER ONE EIGHTH BLOCK
wUPPER ONE EIGHTH BLOCK,zgRIGHT AND UPPER ONE EIGHTH BLOCK,wLOWER ONE EIGHTH BLOCK
zhUPPER AND LOWER ONE EIGHTH BLOCK,zhHORIZONTAL ONE EIGHTH BLOCK-1358,zhUPPER ONE QUARTER BLOCK
rTHREE EIGHTHS BLOCK,tFIVE EIGHTHS BLOCK,sTHREE QUARTERS BLOCK,uSEVEN EIGHTHS BLOCK
zaRIGHT ONE QUARTER BLOCK,rTHREE EIGHTHS BLOCK,tFIVE EIGHTHS BLOCK,sTHREE QUARTERS BLOCK
uSEVEN EIGHTHS BLOCK,zaLEFT HALF MEDIUM SHADE,wRIGHT HALF MEDIUM SHADE,xUPPER HALF MEDIUM SHADE
xLOWER HALF MEDIUM SHADE,xINVERSE MEDIUM SHADE
uUPPER HALF BLOCK AND LOWER HALF INVERSE MEDIUM SHADE,zqINVERSE MEDIUM SHADE AND LOWER HALF BLOCK
+1,zzcLEFT HALF INVERSE MEDIUM SHADE AND RIGHT HALF BLOCK,zzbCHECKER BOARD FILL
sINVERSE CHECKER BOARD FILL,zbHEAVY HORIZONTAL FILL,vUPPER LEFT TO LOWER RIGHT FILL
yRIGHT TO LOWER LEFT FILL,yAND LOWER TRIANGULAR HALF BLOCK,zmLEFT AND RIGHT TRIANGULAR HALF BLOCK
zlUPPER LEFT TRIANGULAR MEDIUM SHADE,zdRIGHT TRIANGULAR MEDIUM SHADE
zkLOWER RIGHT TRIANGULAR MEDIUM SHADE,zeLEFT TRIANGULAR MEDIUM SHADE
zjBOX DRAWINGS LIGHT DIAGONAL UPPER CENTRE TO MIDDLE LEFT,eRIGHT,zdMIDDLE LEFT TO LOWER CENTRE
uRIGHT TO LOWER CENTRE,zdUPPER CENTRE TO MIDDLE LEFT TO LOWER CENTRE,uRIGHT TO LOWER CENTRE
ztMIDDLE LEFT TO LOWER CENTRE TO MIDDLE RIGHT,zdUPPER CENTRE TO MIDDLE RIGHT
zsUPPER CENTRE TO MIDDLE LEFT AND MIDDLE RIGHT TO LOWER CENTRE
zmRIGHT AND MIDDLE LEFT TO LOWER CENTRE,zgTO LOWER CENTRE TO MIDDLE LEFT
zlLEFT TO LOWER CENTRE TO MIDDLE RIGHT
zzjMIDDLE LEFT TO UPPER CENTRE TO MIDDLE RIGHT TO LOWER CENTRE
zzcRIGHT TO UPPER CENTRE TO MIDDLE LEFT TO LOWER CENTRE,zzjDIAMOND,qHORIZONTAL WITH VERTICAL STROKE
zzaARROWHEAD-SHAPED POINTER,yINVERSE CHECK MARK,sLEFT HALF RUNNING MAN,vRIGHT HALF RUNNING MAN
wINVERSE DOWNWARDS ARROW WITH TIP LEFTWARDS,zrLEFTWARDS ARROW AND UPPER AND LOWER ONE EIGHTH BLOCK
zzcRIGHTWARDS ARROW AND UPPER AND LOWER ONE EIGHTH BLOCK
zzdDOWNWARDS ARROW AND RIGHT ONE EIGHTH BLOCK,zrUPWARDS ARROW AND RIGHT ONE EIGHTH BLOCK
zpLEFT HALF FOLDER,qRIGHT HALF FOLDER,rVOIDED GREEK CROSS,sRIGHT OPEN SQUARED DOT
wNEGATIVE DIAGONAL CROSS,fMIDDLE RIGHT TO LOWER CENTRE,zdDIAMOND
zaWHITE HEAVY SALTIRE WITH ROUNDED CORNERS,zpLEFT THIRD WHITE RIGHT POINTING INDEX
zmMIDDLE THIRD WHITE RIGHT POINTING INDEX,zoRIGHT THIRD WHITE RIGHT POINTING INDEX
znNEGATIVE SQUARED QUESTION MARK,zfSTICK FIGURE,a WITH ARMS RAISED,qLEANING LEFT,eRIGHT,nWITH DRESS
xWHITE UP-POINTING CHEVRON,+37,zaSEGMENTED DIGIT ZERO,eONE,dTWO,cHREE,fFOUR,dIVE,eSIX,cEVEN,fEIGHT
fNINE,+787463,uLANGUAGE TAG,+30,mTAG SPACE,fEXCLAMATION MARK,qQUOTATION MARK,oNUMBER SIGN
lDOLLAR SIGN,lPERCENT SIGN,mAMPERSAND,iPOSTROPHE,kLEFT PARENTHESIS,qRIGHT PARENTHESIS,rASTERISK
iPLUS SIGN,jCOMMA,fHYPHEN-MINUS,mFULL STOP,jSOLIDUS,hDIGIT ZERO,eONE,dTWO,cHREE,fFOUR,dIVE,eSIX
cEVEN,fEIGHT,fNINE,kCOLON,fSEMICOLON,jLESS-THAN SIGN,oEQUALS SIGN,lGREATER-THAN SIGN,rQUESTION MARK
nCOMMERCIAL AT,nLATIN CAPITAL LETTER A,bB,bC,bD,bE,bF,bG,bH,bI,bJ,bK,bL,bM,bN,bO,bP,bQ,bR,bS,bT,bU
bV,bW,bX,bY,bZ,vEFT SQUARE BRACKET,tREVERSE SOLIDUS,oIGHT SQUARE BRACKET,uCIRCUMFLEX ACCENT
rLOW LINE,iGRAVE ACCENT,mLATIN SMALL LETTER A,bB,bC,bD,bE,bF,bG,bH,bI,bJ,bK,bL,bM,bN,bO,bP,bQ,bR,bS
bT,bU,bV,bW,bX,bY,bZ,tEFT CURLY BRACKET,sVERTICAL LINE,nRIGHT CURLY BRACKET,tTILDE,jCANCEL TAG,+128
kVARIATION SELECTOR-17,b8,b9,c20,b1,b2,b3,b4,b5,b6,b7,b8,b9,c30,b1,b2,b3,b4,b5,b6,b7,b8,b9,c40,b1
b2,b3,b4,b5,b6,b7,b8,b9,c50,b1,b2,b3,b4,b5,b6,b7,b8,b9,c60,b1,b2,b3,b4,b5,b6,b7,b8,b9,c70,b1,b2,b3
b4,b5,b6,b7,b8,b9,c80,b1,b2,b3,b4,b5,b6,b7,b8,b9,c90,b1,b2,b3,b4,b5,b6,b7,b8,b9,c100,b1,b2,b3,b4,b5
b6,b7,b8,b9,c10,b1,b2,b3,b4,b5,b6,b7,b8,b9,c20,b1,b2,b3,b4,b5,b6,b7,b8,b9,c30,b1,b2,b3,b4,b5,b6,b7
b8,b9,c40,b1,b2,b3,b4,b5,b6,b7,b8,b9,c50,b1,b2,b3,b4,b5,b6,b7,b8,b9,c60,b1,b2,b3,b4,b5,b6,b7,b8,b9
c70,b1,b2,b3,b4,b5,b6,b7,b8,b9,c80,b1,b2,b3,b4,b5,b6,b7,b8,b9,c90,b1,b2,b3,b4,b5,b6,b7,b8,b9,d200
b1,b2,b3,b4,b5,b6,b7,b8,b9,c10,b1,b2,b3,b4,b5,b6,b7,b8,b9,c20,b1,b2,b3,b4,b5,b6,b7,b8,b9,c30,b1,b2
b3,b4,b5,b6,b7,b8,b9,c40,b1,b2,b3,b4,b5,b6,b7,b8,b9,c50,b1,b2,b3,b4,b5,b6"

end SchemaDoc.Text.Names
