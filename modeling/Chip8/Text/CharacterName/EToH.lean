/-!
# Names of characters from E to H

The names and other names of characters that begin with these letters, written
as the module `Chip8.Text.CharacterName` says.
-/

namespace Chip8.Text.CharacterName

def namesEToH : List String := [
    "aE-MAIL SYMBOLmAGLEdRa OF MAIZEfRICEhWITH HEARING AIDrTHa GLOBE AMERICAS",
    "hSIA-AUSTRALIAoEUROPE-AFRICAsROUNDkST SYRIAC CROSSqDITORIAL CORONISqGG",
    "bYPTIAN HIEROGLYPH A001b2b3b4b5aAc6aAbBc7b8b9c10b1b2b3b4aAc5b6b7aAc8b9",
    "c20b1b2b3b4b5b6b7b8b9c30b1b2aAc3b4b5b6b7b8b9c40aAc1b2aAc3aAc4b5aAc6b7b8",
    "b9c50b1b2b3b4b5b6b7b8b9c60b1b2b3b4b5b6b7b8b9c70dA001b2b3b4b5b6b7aAbBc8b9",
    "c10b1b2b3b4b5b6b7b8b9c20b1b2b3b4b5b6b7b8b9c30b1b2fB001b2b3b4b5aAc6b7b8b9",
    "dEGIN SEGMENTnC001b2aAbBbCc3b4b5b6b7b8b9c10aAc1b2b3b4b5b6b7b8b9c20b1b2b3",
    "b4eD001b2b3b4b5b6b7b8aAc9c10b1b2b3b4b5b6b7b8b9c20b1b2b3b4b5b6b7aAc8b9c30",
    "b1aAc2b3b4aAc5b6b7b8b9c40b1b2b3b4b5b6aAc7b8aAc9c50aAbBbCbDbEbFbGbHbIc1b2",
    "aAc3b4aAc5b6b7b8b9c60b1b2b3b4b5b6b7aAbBbCbDbEbFbGbHfE001b2b3b4b5b6b7b8aA",
    "c9aAd10b1b2b3b4b5b6aAc7aAc8b9c20aAc1b2b3b4b5b6b7b8aAc9c30b1b2b3b4aAc6b7",
    "b8dND SEGMENTlF001aAc2b3b4b5b6b7b8b9c10b1b2b3aAc4b5b6b7b8b9c20b1aAc2b3b4",
    "b5b6b7b8b9c30b1aAc2b3b4b5b6b7aAc8aAc9c40b1b2b3b4b5aAc6aAc7aAc8b9c50b1aA",
    "bBbCc2b3eG001b2b3b4b5b6aAc7aAbBc8b9c10b1aAc2b3b4b5b6b7b8b9c20aAc1b2b3b4",
    "b5b6aAc7b8b9c30b1b2b3b4b5b6aAc7aAc8b9c40b1b2b3aAc4b5aAc6b7b8b9c50b1b2b3",
    "b4eH001b2b3b4b5b6aAc7b8dORIZONTAL JOINERrI001b2b3b4b5aAc6b7b8b9aAd10aAc1",
    "aAc2b3b4b5dNSERT AT BOTTOM ENDdSTARTmTOP ENDdSTARTtK001b2b3b4b5b6b7b8",
    "eL001b2aAc3b4b5b6aAc7b8eM001aAbBc2b3aAc4b5b6b7b8b9c10aAc1b2aAbBbCbDbEbF",
    "bGbHc3b4b5aAc6aAc7aAc8b9c20b1b2aAc3b4aAc5b6b7b8aAc9c30b1aAc2b3aAbBc4b5b6",
    "b7b8b9c40aAc1b2b3b4eN001b2b3b4b5b6b7b8b9c10b1b2b3b4b5b6b7b8aAbBc9c20b1b2",
    "b3b4b5aAc6b7b8b9c30b1b2b3aAc4aAc5aAc6b7aAc8b9c40b1b2dL001b2b3b4b5aAc6b7",
    "b8b9c10b1b2b3b4b5b6b7aAc8b9c20eU001b2b3b4b5b6b7b8b9c10aAc1aAc2b3b4b5b6b7",
    "b8aAc9c20b1b2aAgO001aAc2b3b4b5aAc6aAbBbCbDbEbFc7b8b9c10aAbBbCc1b2b3b4b5",
    "b6b7b8b9aAd20aAc1b2b3b4aAc5aAc6b7b8b9aAd30aAc1b2b3aAc4b5b6aAbBbCbDc7b8b9",
    "c40b1b2b3b4b5b6b7b8b9c50aAbBc1dVERLAY MIDDLEoP001aAc2b3aAc4b5b6b7b8b9c10",
    "b1eQ001b2b3b4b5b6b7eR001b2aAc3aAbBc4b5b6b7b8b9c10aAc1b2b3b4b5b6aAc7b8b9",
    "c20b1b2b3b4b5b6b7b8b9eS001b2aAc3b4b5b6aAc7b8b9c10b1b2b3b4aAbBc5b6b7aAc8",
    "b9c20b1b2b3b4b5b6aAbBc7b8b9c30b1b2b3b4b5aAc6b7b8b9c40b1b2b3b4b5b6eT001b2",
    "b3aAc4b5b6b7aAc8aAc9aAd10b1aAc2b3b4b5b6aAc7b8b9c20b1b2b3b4b5b6b7b8b9c30",
    "b1b2aAc3aAc4b5b6eU001b2b3b4b5b6aAbBc7b8b9c10b1b2b3b4b5b6b7b8b9c20b1b2b3",
    "aAc4b5b6b7b8b9aAd30b1b2aAc3b4b5b6b7b8b9c40b1b2eV001aAbBbCbDbEbFbGbHbIc2",
    "aAc3b4b5b6b7aAbBc8b9c10b1aAbBbCc2aAbBc3b4b5b6b7b8b9c20aAbBbCbDbEbFbGbHbI",
    "bJbKbLc1b2b3aAc4b5b6b7b8aAc9aAd30aAc1aAc2b3aAc4b5b6b7aAc8b9c40aA",
    "eERTICAL JOINERpW001b2b3aAc4b5b6b7b8b9aAd10aAc1b2b3b4aAc5b6b7aAc8aAc9c20",
    "b1b2b3b4aAc5eX001b2b3b4aAbBc5b6aAc7b8aAfY001aAc2b3b4b5b6b7b8eZ001b2aAbB",
    "bCbDc3aAbBc4aAc5aAc6b7b8b9c10b1b2b3b4b5aAbBbCbDbEbFbGbHbIc6aAbBbCbDbEbF",
    "bGbHyIGHT PETALLED OUTLINED BLACK FLORETTEzgOINTED BLACK STAR",
    "kPINWHEEL STARnRECTILINEAR BLACK STARzfSPOKED ASTERISK",
    "pTEARDROP-SPOKED PROPELLER ASTERISKzkH NOTEkJECT SYMBOLlLBASAN LETTER A",
    "bBEcCEbHEdDEbHEdEaIcFEcGEbHAMMAeEcJEdHEcIbJEcKEbHEdLEbLEdMEcNAbDEcEbJEdO",
    "bPEcQEcREbREdSEbHEdTEbHEdUbVEcXEcYbZEbHEqECTRIC ARROWfLIGHT BULBkPLUG",
    "eTORCHgAL INTERSECTIONuMENT OFa OPENING DOWNWARDSjUPWARDSpWITH DOT ABOVE",
    "jLONG HORIZONTAL STROKEwOVERBARhTWO HORIZONTAL STROKESwUNDERBAR",
    "iVERTICAL BAR AT END OF HORIZONTAL STROKEzzdPHANTfVATORgF",
    "bYMAIC LETTER ALEPHeYINeBETHeDALETHgGIMELfHEaTHeKAPHeLAMEDHgMEMdNUNdPE",
    "cQOPHeRESHeSADHEdMEKHfHINeTAWcETHeWAWdYODHeZAYINlIGATURE ZAYIN-YODHz",
    "bM DASHeQUADeSPACEgOJI COMPONENT BALDeCURLY HAIRkRED HAIRiWHITE HAIR",
    "uMODIFIER FITZPATRICK TYPE-1-2d3b4b5b6zgPHASIS SYMBOLmTY DOCUMENTiNEST",
    "dOTEa PADbGEjPAGEaSfSETa WITH LEFT ARROW ABOVEqOVERBARhRIGHT ARROW ABOVE",
    "rSMALL CIRCLE ABOVEzhN DASHeQUADeSPACEgD OF GUARDED AREAmLINEeMEDIUM",
    "gPROOFcTECTED AREAoSELECTED AREAnTEXTdRANSMISSIONa BLOCK",
    "vWITH LEFTWARDS ARROW ABOVEzdQaUIRYfTER SYMBOLkVELOPE",
    "a WITH DOWNWARDS ARROW ABOVEvLIGHTNINGwOLbMbTcPAcQUAL AND PARALLEL TO",
    "pTO BY DEFINITIONnOR GREATER-THANmLESS-THANjPRECEDESiSUCCEEDSpS COLON",
    "fSIGNa ABOVE LEFTWARDS ARROWpPLUS SIGNjRIGHTWARDS ARROWqTILDE OPERATOR",
    "tND SLANTED PARALLELa WITH TILDE ABOVEzmWITH BUMPY ABOVElDOT BELOW",
    "jINFINITY BELOWoTWO DOTS ABOVE AND TWO DOTS BELOWzsWITH ASTERISK",
    "rIANGULAR TOkVALENT TOcWITH FOUR DOTS ABOVEzfRASE TO THE LEFTeRIGHT",
    "qIS FORM ONEdTWOlROR-BARRED BLACK CIRCLEgDIAMONDhSQUAREmWHITE CIRCLE",
    "gDIAMONDhSQUAREySAbCaAPEeTIMATED SYMBOLiSiTBbHIOPIC COLON",
    "dMBINING GEMINATION AND VOWEL LENGTH MARKvMARKpVOWEL LENGTH MARKyMA",
    "fDIGIT EIGHTfFIVEdOUReNINEeONEdSEVENeIXdTHREEeWOjFULL STOPjNUMBER EIGHTY",
    "gFIFTYeORTYfHUNDREDhNINETYgSEVENTYgIXTYfTENa THOUSANDlHIRTYfWENTY",
    "nPARAGRAPH SEPARATORsREFACE COLONnQUESTION MARKnSECTION MARKkMICOLON",
    "iYLLABLE BAaAcBAaAcEaEcIbObUcEaEcIbOaAcUbWAbEaEcIdCAaAcCAaAcEaEcHAaAcEaE",
    "cHAaAcEaEcIbObUcIbObUcIbObUcEaEcHAaAcEaEcIbOaAcUbWAdIbOaAcUbWAdDAaAcDAaA",
    "cEaEcHAAcEaEcIbObUcIbOaAcUbWAdEaEcIbOaAcUbWAcZAAcEaEcIbObUdFAaAcEaEcIbO",
    "bUbWAbEaEcIcYAdGAaAcEaEcGAaAcEaEcIbObUbWAaAcEaEcIdIbLOTTAL AaAcEaEcIbOaA",
    "cUbWAjOaAcUaRAGE BWEEcIdFWEEcIdGWEaEcIdHHWAeKWEaEcIdMWEEcIdPWEEcIdQWEaE",
    "cIjWAaAcEaEcIcYAaAcEaEcIbObUdHAaAcEaEcHAaAcEaEcIbObUbWAbEaEcIcYAaAcEaEcI",
    "bObUdIbOaAcUcJAaAcEaEcIbOaAcUbWAdKAaAcEaEcIbOaAcUbWAaAcEaEcIcXAaAcEaEcI",
    "bObUbWAaAcEaEcIdYAaAcEaEcIbObUdLAaAcEaEcIbOaAcUbWAdMAaAcEaEcIbOaAcUbWAbE",
    "aEcIcYAdNAaAcEaEcIbOaAcUbWAcYAaAcEaEcIbOaAcUbWAePAaAcEaEcHAaAbRYNGEAL A",
    "aAcEaEcIbObUkEaEcIbOaAcUbWAdIbOaAcUbWAbEaEcIdQAaAcEaEcHAaAcEaEcIbObUbWA",
    "aAcEaEcIdIbOaAcUbWAaAcEaEcIcYAaAcEaEcIbObUdRAaAcEaEcIbOaAcUbWAcYAdSAaAcE",
    "aBATBEIT BWAdFWAdMWAdPWAlEcHAaAcEaEcIbOaAcUbWAdIbOaAcSAaAcEaEcIbObUcUbWA",
    "cZAaAcEaEcIbObUbWAeTAaAcEaEcHAaAcEaEcIbOaAcUbWAdIbOaAcSAaAcEaEcIbObUbWA",
    "dTHAAcEaEcIbObUdUbWAcZAaAcEaEcIbOaAcUdVAaAcEaEcIbObUbWAdWAaAcEaEcIbOaAcU",
    "cXAaAcEaEcIbOaAcUbWAaAcEaEcIcYAaAcEaEcIbObUdYAaAcEaEcIbOaAcUcZAaAcEaEcHA",
    "aAcEaEcIbObUbWAdIbOaAcUbWAcZAaAcEaEcIbObUmTONAL MARK CHIRETgDERETa-HIDET",
    "kIFATfHIDETfKENATeURTeRIKRIKgSHORT RIKRIKmYIZETqWORDSPACEqX",
    "cULER CONSTANTmRO SIGNf-CURRENCY SIGNoPEAN CASTLEgPOST OFFICE",
    "tVERGREEN TREEnXCESSdLAMATION MARKeQUESTION MARKxPRESSIONLESS FACE",
    "rTENDED ARABIC-INDIC DIGIT EIGHTfFIVEdOUReNINEeONEdSEVENeIXdTHREEeWO",
    "dZEROzeRATERRESTRIAL ALIENsEMELY HEAVY FIVE SPOKED ASTERISKuGREEK CROSS",
    "lSALTIREgIX SPOKED ASTERISKtWHITE CIRCLEgSQUAREzcYEaGLASSEShS",
    "eFACE HOLDING BACK TEARSsMASSAGEhPALMeSAVOURING DELICIOUS FOOD",
    "xCREAMING IN FEARrTHROWING A KISSpWITH COLD SWEATiWBOY HAT",
    "kDIAGONAL MOUTHoFINGER COVERING CLOSED LIPSzcHEAD-BANDAGE",
    "mLOOK OF TRIUMPHpMEDICAL MASKlONOCLEhNO GOOD GESTUREpOK GESTURE",
    "jNE EYEBROW RAISEDrPEN EYES AND HAND OVER MOUTHyMOUTHa AND COLD SWEAT",
    "oVOMITINGtPARTY HORN AND PARTY HATxEEKING EYEkLEADING EYESnROLLING EYES",
    "mSTUCK-OUT TONGUEa AND TIGHTLY-CLOSED EYEStWINKING EYEzhTEARS OF JOY",
    "lHERMOMETERlUNEVEN EYES AND WAVY MOUTHzcOUT MOUTHpSIMILE SIGNlTORYfIRY",
    "dLAFELeLEN LEAFhING DIAGONAL CROSSING NORTH EAST ARROWqRISING DIAGONAL",
    "yIN WHITE CIRCLE IN BLACK SQUAREzvMILYeRSI SYMBOLkTHER CHRISTMASoX ICON",
    "eMACHINEkEARFUL FACEjTHERfMALE SIGNiININE ORDINAL INDICATORyNCER",
    "eRRIS WHEELiYeFbIELD HOCKEY STICK AND BALLzaGURE DASHeSPACEkLE CABINET",
    "hFOLDERgSEPARATORlM FRAMESgPROJECTORmNITE PART INTEGRALsREa ENGINE",
    "fXTINGUISHERnCRACKERhWORK SPARKLERjSgST PLACE MEDALlQUARTER MOONa SYMBOL",
    "gWITH FACEwSTRONG ISOLATEsSHa CAKE WITH SWIRL DESIGNxEYE",
    "dING POLE AND FISHsTED HAND SIGNoVE DOT MARKePUNCTUATIONtLAG IN HOLE",
    "jMINGOfT SHOEfBREADfNESSgEUR-DE-LISjXED BICEPSlOPPY DISKiRAL HEARTjWER",
    "a PLAYING CARDSmUNCTUATION MARKvUSHED FACEkYaING DISCeENVELOPEiSAUCERmOG",
    "aGYdLDEReNDUEeOTaPRINTSiR ALLeCESdK AND KNIFEa WITH PLATEvED PARAGRAPHOS",
    "oINGeM FEEDgTUNE COOKIEmUNTAINfR BALLOON-SPOKED ASTERISK",
    "xCLUB-SPOKED ASTERISKtORNER ARROWS CIRCLING ANTICLOCKWISEzlDOT MARK",
    "ePUNCTUATIONpLEAF CLOVERlPOINTED BLACK STARsTEARDROP-SPOKED ASTERISKz",
    "a-PER-EM SPACEnTH ROOTjX FACEhRACTION NUMERATOR ONEnSLASHlME WITH AN X",
    "ePICTUREhTILESoEEZING FACEkNCH FRANC SIGNiIESkIED SHRIMPkOG FACE",
    "gNT-FACING BABY CHICKrTILTED SHADOWED WHITE RIGHTWARDS ARROWzqWN",
    "aING FACE WITH OPEN MOUTHzdSaIcUEL PUMPhLL BLOCKfMOON SYMBOLgWITH FACE",
    "oOUTER JOINkSTOPfWIDTH AMPERSANDiPOSTROPHEjSTERISKiBROKEN BARkCENT SIGN",
    "iIRCUMFLEX ACCENTqOLONdMMAbERCIAL ATnDIGIT EIGHTfFIVEdOUReNINEeONEdSEVEN",
    "eIXdTHREEeWOdZEROjOLLAR SIGNlEQUALS SIGNkXCLAMATION MARKqFULL STOP",
    "jGRAVE ACCENTkEATER-THAN SIGNrHYPHEN-MINUSmLATIN CAPITAL LETTER AbBbCbD",
    "bEbFbGbHbIbJbKbLbMbNbObPbQbRbSbTbUbVbWbXbYbZqSMALL LETTER AbBbCbDbEbFbG",
    "bHbIbJbKbLbMbNbObPbQbRbSbTbUbVbWbXbYbZtEFT CURLY BRACKETnPARENTHESIS",
    "lSQUARE BRACKEToWHITE PARENTHESISuSS-THAN SIGNnOW LINEiMACRONgNOT SIGN",
    "hUMBER SIGNlPERCENT SIGNlLUS SIGNiOUND SIGNkQUESTION MARKlOTATION MARK",
    "oREVERSE SOLIDUSoIGHT CURLY BRACKETnPARENTHESISlSQUARE BRACKET",
    "oWHITE PARENTHESISxSEMICOLONiOLIDUShTILDEfVERTICAL LINEnWON SIGN",
    "iYEN SIGNqNCTION APPLICATIONrERAL URNjSEdVS1b2b3b4eGAME DIEgRLICfEAR",
    "a WITH HANDLESiOUT HUBoM STONEgINIeNIEdOMETRIC PROPORTIONlALLY EQUAL TO",
    "fIVALENT TOyRGIAN CAPITAL LETTER AENcNcBANdCANcHARcINdILdDONdENcGANcHAN",
    "eHAEbRcEbIEcOEdINcJHANdILdKANcHAReLASdMANdNARdONcPARcHAReQARdRAEdSANcHIN",
    "eTANbRdUNcVINdWEcXANdYNcZENcHARtLETTER AENcINcNcBANdCANcHARcINdILdDON",
    "dELIFIeNcFIcGANcHANeHAEbRaD SIGNiEbIEcOEdINcJHANdILdKANcHAReLABIAL SIGN",
    "jSdMANdNARdONcPARcHAReQARdRAEdSANcHINeTANbRcURNED GANkUNcVINdWEcXANdYN",
    "cZENcHARlMTAVRULI CAPITAL LETTER AENcINcNcBANdCANcHARcINdILdDONdELIFIeN",
    "cFIcGANcHANeHAEbRaD SIGNiEbIEcOEdINcJHANdILdKANcHAReLABIAL SIGNjSdMAN",
    "dNARdONcPARcHAReQARdRAEdSANcHINeTANbRcURNED GANkUNcVINdWEcXANdYNcZENcHAR",
    "zdPARAGRAPH SEPARATORtSMALL LETTER AENcNcBANdCANcHARcINdILdDONdENcGAN",
    "cHANeHAEbRcEbIEcOEdINcJHANdILdKANcHAReLASdMANdNARdONcPARcHAReQARdRAEdSAN",
    "cHINeTANbRdUNcVINdWEcXANdYNcZENcHARyRMAN PENNY SIGNpTA MARKiHOST",
    "eIMEL SYMBOLkRAFFE FACEjLaS SYMBOLlLAGOLITIC CAPITAL LETTER AZUdBIG YUS",
    "gUKYeCAUDATE CHRIVInHRIVIgDJERVIfOBROeZELOfFITAdRITUfGLAGOLIhHERUeI",
    "aNITIAL IZHElOTATED BIG YUShSMALL YUSqZHEbITSAhKAKOeLATINATE MYSLITE",
    "pJUDIJEhMYSLITEhNASHIfONUcTUdPEbOKOJIgRITSIfSHAbTAaPICgLOVOeMALL YUS",
    "a WITH TAILsPIDERY HAkTROKUTASTI AlSIcVRIDOgUKUdVEDEeYATIdERIbUcSTUeObU",
    "cZEMLJAfHIVETEwSMALL LETTER AZUdBIG YUSgUKYeCAUDATE CHRIVInHRIVIgDJERVI",
    "fOBROeZELOfFITAdRITUfGLAGOLIhHERUeIaNITIAL IZHElOTATED BIG YUShSMALL YUS",
    "qZHEbITSAhKAKOeLATINATE MYSLITEpJUDIJEhMYSLITEhNASHIfONUcTUdPEbOKOJI",
    "gRITSIfSHAbTAaPICgLOVOeMALL YUSa WITH TAILsPIDERY HAkTROKUTASTI AlSI",
    "cVRIDOgUKUdVEDEeYATIdERIbUcSTUeObUcZEMLJAfHIVETEzdSS OF MILKlEICH STARK",
    "kOBE WITH MERIDIANSrVESdWING STARlOAL NETfTcGGLESfLFEReRILLA",
    "fTHIC LETTER AHSAdIHVUSgBAIRKANhDAGSeEISdFAIHUfGIBAeHAGLdWAIRfIGGWSeUJA",
    "eJERdKUSMAfLAGUSfMANNAfNAUTHSfINE HUNDREDiTYgOTHALfPAIRTHRAiQAIRTHRA",
    "iRAIDAfSAUILfTEIWSeHIUTHgURUSeWINJAsRADUATION CAPlNTHA AU LENGTH MARK",
    "oLETTER AaAbIbUcBAbHAdCAbHAdDAbDAbHAdHAdEEcGAbHAdHAcIaIcJAbHAdKAbHAdLA",
    "bLAdMAcNAbGAcNAcYAdOOcPAbHAdRAcSAbHAcSAdTAbHAcTAbHAeUaUcVAbEDIC ANUSVARA",
    "iDOUBLE ANUSVARAuOCALIC LaLcRaRkYAjOMcSIGN ANUSVARAhVAGRAHAiCANDRABINDU",
    "kOMBINING ANUSVARA ABOVEyNUKTAfPLUTAfVIRAMAeSARGAmVOWEL SIGN AAbIbUcEEcI",
    "aIcOOcUaUcVOCALIC LaLcRaRzbPESdVE ACCENT",
    "kEATER-THAN ABOVE DOUBLE-LINE EQUAL ABOVE LESS-THANz",
    "iLESS-THAN ABOVE DOUBLE-LINE EQUALziRIGHTWARDS ARROW",
    "qSIMILAR ABOVE LESS-THANpOR EQUAL",
    "pLANTED EQUAL ABOVE LESS-THAN ABOVE SLANTED EQUALzzeND NOT APPROXIMATE",
    "pSINGLE-LINE NOT EQUAL TOzdBESIDE LESS-THANpUT NOT EQUAL TOfIVALENT TO",
    "vCLOSED BY CURVEa ABOVE SLANTED EQUALzkEQUAL TO OR LESS-THAN",
    "vOR APPROXIMATElEQUAL TOfIVALENT TOnLESS-THANjSLANTED EQUAL TO",
    "a WITH DOT ABOVEa LEFTkINSIDEzjVER EQUAL TOjLAPPING LESS-THANvSIGN",
    "eWITH CIRCLE INSIDEnDOTdQUESTION MARK ABOVEzjEK ACROPHONIC ATTIC FIFTY",
    "a STATERShTALENTSgHOUSANDa STATERSuVEa HUNDREDa STATERShTALENTSpSTATERS",
    "hTALENTSgHOUSANDa TALENTSvONE DRACHMAhHALFdUNDRED STATERShTALENTS",
    "pQUARTERhTHOUSAND STATERShTALENTSuTEN MNASeSTATERShTALENTS",
    "gHOUSAND STATERSzbCARYSTIAN FIVE HUNDREDvYRENAIC TWO DRACHMAS",
    "vDELPHIC FIVE MNASrEPIDAUREAN FIVE HUNDREDmTWOa DRACHMAS",
    "xHERAEUM ONE PLETHRONrMIONIAN FIFTYfONEdTENoMESSENIAN TEN",
    "nNAXIAN FIVE HUNDREDtSTRATIAN FIFTY MNAStTHESPIAN FIFTYdVE HUNDRED",
    "hTHOUSANDnONEa HUNDREDhTHOUSANDmTENcHIRTYeREE HUNDREDmWOlROEZENIAN FIFTY",
    "a ALTERNATE FORMsVEa HUNDREDmTENa ALTERNATE FORMzoNO TELEIAjROURA SIGN",
    "jTABE SIGNlBETA SYMBOLlCAPITAL DOTTED LUNATE SIGMA SYMBOLzbKAI SYMBOL",
    "kLETTER ALPHAa WITH DASIAa AND OXIAa AND PROSGEGRAMMENIxPERISPOMENI",
    "a AND PROSGEGRAMMENIzeROSGEGRAMMENIoVARIAa AND PROSGEGRAMMENIzjMACRON",
    "gOXIAePROSGEGRAMMENInSILIa AND OXIAa AND PROSGEGRAMMENIxPERISPOMENI",
    "a AND PROSGEGRAMMENIzeROSGEGRAMMENIoVARIAa AND PROSGEGRAMMENIzjTONOS",
    "fVARIAeRACHYqRCHAIC SAMPInBETAeCHIdDELTAfEPSILONa WITH DASIAa AND OXIA",
    "eVARIApOXIAePSILIa AND OXIAeVARIApTONOSfVARIArTAa WITH DASIAa AND OXIA",
    "a AND PROSGEGRAMMENIxPERISPOMENIa AND PROSGEGRAMMENIzeROSGEGRAMMENI",
    "oVARIAa AND PROSGEGRAMMENIzjOXIAePROSGEGRAMMENInSILIa AND OXIA",
    "a AND PROSGEGRAMMENIxPERISPOMENIa AND PROSGEGRAMMENIzeROSGEGRAMMENI",
    "oVARIAa AND PROSGEGRAMMENIzjTONOSfVARIAoGAMMAfHETAeIOTAa WITH DASIA",
    "a AND OXIAePERISPOMENIlVARIAoIALYTIKAjMACRONgOXIAePSILIa AND OXIA",
    "ePERISPOMENIlVARIApTONOSfVARIAeRACHYqKAPPAfLAMDAfMUcNUcOMEGAa WITH DASIA",
    "a AND OXIAa AND PROSGEGRAMMENIxPERISPOMENIa AND PROSGEGRAMMENIz",
    "eROSGEGRAMMENIoVARIAa AND PROSGEGRAMMENIzjOXIAePROSGEGRAMMENInSILI",
    "a AND OXIAa AND PROSGEGRAMMENIxPERISPOMENIa AND PROSGEGRAMMENIz",
    "eROSGEGRAMMENIoVARIAa AND PROSGEGRAMMENIzjTONOSfVARIAoICRONa WITH DASIA",
    "a AND OXIAeVARIApOXIAePSILIa AND OXIAeVARIApTONOSfVARIA",
    "sPAMPHYLIAN DIGAMMArHIcIbSIdRHOa WITH DASIAoSANcHOcIGMAfTAUcHETAfUPSILON",
    "a WITH DASIAa AND OXIAePERISPOMENIlVARIAoIALYTIKAjMACRONgOXIAeTONOS",
    "fVARIAeRACHYtXIcYOTdZETAkUNATE SIGMA SYMBOL",
    "tREVERSED DOTTED LUNATE SIGMA SYMBOLzbLUNATE SIGMA SYMBOLzdTHETA SYMBOL",
    "uDASIAa AND OXIAePERISPOMENIlVARIAoIALYTIKA AND OXIAePERISPOMENIlVARIA",
    "jTONOSoRACHMA SIGNmFIVE OBOLS SIGNoOUR OBOLS SIGNpGRAMMA SIGN",
    "lINDICTION SIGNmSTRUMENTAL NOTATION SYMBOL-1a1b2b3b4b7b8b9c2a3b4b5b6b7b9",
    "c30b2b6b7b8b9c4a0b2b3b5b7b8b9c5a0b1b2b3b4c7b8zfKAI SYMBOLiPPA SYMBOL",
    "lORONISgYATHOS BASE SIGNrLETTER ARCHAIC KOPPAnDIGAMMAhKOPPAfSAMPI",
    "eMALL CAPITAL GAMMAfLAMDAfOMEGAfPIbSIdRHOqTIGMAgYOTjITRA SIGN",
    "jOWER NUMERAL SIGNrUNATE EPSILON SYMBOLoSIGMA SYMBOLtMETRETES SIGN",
    "mUSICAL LEIMMAoNUMERAL SIGNmOBOL SIGNiNE HALF SIGNa ALTERNATE FORM",
    "yQUARTER SIGNpUNKIA SIGNkXIAePERISPOMENIkHI SYMBOLjI SYMBOL",
    "iROSGEGRAMMENInSILIa AND OXIAePERISPOMENIlVARIApQUESTION MARK",
    "nREVERSED LUNATE EPSILON SYMBOLzeHO SYMBOLgWITH STROKE SYMBOL",
    "wSINUSOID SIGNmMALL DOTTED LUNATE SIGMA SYMBOLzbLETTER ALPHAa WITH DASIA",
    "a AND OXIAa AND YPOGEGRAMMENIwPERISPOMENIa AND YPOGEGRAMMENIzeVARIA",
    "a AND YPOGEGRAMMENIxYPOGEGRAMMENIxMACRONgOXIAa AND YPOGEGRAMMENI",
    "wPERISPOMENIa AND YPOGEGRAMMENIzdSILIa AND OXIAa AND YPOGEGRAMMENI",
    "wPERISPOMENIa AND YPOGEGRAMMENIzeVARIAa AND YPOGEGRAMMENIxYPOGEGRAMMENI",
    "xTONOSfVARIAa AND YPOGEGRAMMENIwRACHYgYPOGEGRAMMENIxRCHAIC KOPPAfSAMPI",
    "nBETAeCHIdDELTAeIGAMMAhEPSILONa WITH DASIAa AND OXIAeVARIApOXIAePSILI",
    "a AND OXIAeVARIApTONOSfVARIArTAa WITH DASIAa AND OXIAa AND YPOGEGRAMMENI",
    "wPERISPOMENIa AND YPOGEGRAMMENIzeVARIAa AND YPOGEGRAMMENIxYPOGEGRAMMENI",
    "xOXIAa AND YPOGEGRAMMENIwPERISPOMENIa AND YPOGEGRAMMENIzdSILIa AND OXIA",
    "a AND YPOGEGRAMMENIwPERISPOMENIa AND YPOGEGRAMMENIzeVARIA",
    "a AND YPOGEGRAMMENIxYPOGEGRAMMENIxTONOSfVARIAa AND YPOGEGRAMMENI",
    "xYPOGEGRAMMENIwFINAL SIGMAlGAMMAfHETAeIOTAa WITH DASIAa AND OXIA",
    "ePERISPOMENIlVARIAoIALYTIKAa AND OXIAePERISPOMENIlTONOSfVARIAtMACRON",
    "gOXIAePERISPOMENIkSILIa AND OXIAePERISPOMENIlVARIApTONOSfVARIAeRACHY",
    "qKAPPAeOPPAfLAMDAfMUcNUcOMEGAa WITH DASIAa AND OXIAa AND YPOGEGRAMMENI",
    "wPERISPOMENIa AND YPOGEGRAMMENIzeVARIAa AND YPOGEGRAMMENIxYPOGEGRAMMENI",
    "xOXIAa AND YPOGEGRAMMENIwPERISPOMENIa AND YPOGEGRAMMENIzdSILIa AND OXIA",
    "a AND YPOGEGRAMMENIwPERISPOMENIa AND YPOGEGRAMMENIzeVARIA",
    "a AND YPOGEGRAMMENIxYPOGEGRAMMENIxTONOSfVARIAa AND YPOGEGRAMMENI",
    "xYPOGEGRAMMENIwICRONa WITH DASIAa AND OXIAeVARIApOXIAePSILIa AND OXIA",
    "eVARIApTONOSfVARIAsPAMPHYLIAN DIGAMMArHIcIbSIdRHOa WITH DASIAfPSILI",
    "oSAMPIdNcHOcIGMAeTIGMAgTAUcHETAfUPSILONa WITH DASIAa AND OXIA",
    "ePERISPOMENIlVARIAoIALYTIKAa AND OXIAePERISPOMENIlTONOSfVARIAtMACRON",
    "gOXIAePERISPOMENIkSILIa AND OXIAePERISPOMENIlVARIApTONOSfVARIAeRACHYtXI",
    "cZETAlREVERSED DOTTED LUNATE SIGMA SYMBOLzbLUNATE SIGMA SYMBOLz",
    "iUBSCRIPT SMALL LETTER BETAeCHIdGAMMAfPHIdRHOzaYMBOL TAU RHOoTALENT SIGN",
    "kHETA SYMBOLkREE OBOLS SIGNkQUARTERS SIGNsONOSeRYBLION BASE SIGN",
    "rWO OBOLS SIGNkTHIRDS SIGNpUPSILON WITH ACUTE AND HOOK SYMBOL",
    "vDIAERESIS AND HOOK SYMBOLzaHOOK SYMBOLyVARIAeOCAL NOTATION SYMBOL-1a0b1",
    "b2b3b4b5b6b7b8b9c2a0b1b2b3b4c3b4b5a0b1b2b3b4c6b7b8b9xXESTES SIGN",
    "lYEAR SIGNiPOGEGRAMMENInZERO SIGNlN APPLEfBOOKeHEARTfSALADjIMACING FACE",
    "lNNING CAT FACE WITH SMILING EYESzbFACE",
    "a WITH ONE LARGE AND ONE SMALL EYEzcSMILING EYESlTAR EYESzbOUP MARK",
    "eSEPARATORmWING HEARTmSbUARANI SIGNiDSMANhIDE DOGgTAR",
    "eJARATI ABBREVIATION SIGNrDIGIT EIGHTfFIVEdOUReNINEeONEdSEVENeIXdTHREE",
    "eWOdZEROkLETTER AaAbIbUcBAbHAdCAbHAdDAbDAbHAdHAdEbGAbHAdHAcIaIcJAbHAdKA",
    "bHAdLAbLAdMAcNAbGAcNAcYAdObPAbHAdRAcSAbHAcSAdTAbHAcTAbHAeUaUcVAbOCALIC L",
    "aLcRaRkYAcZHAkOMcRUPEE SIGNkSIGN ANUSVARAhVAGRAHAiCANDRABINDU",
    "kIRCLE NUKTA ABOVEsMADDAHgNUKTAfSHADDAfUKUNfTHREE-DOT NUKTA ABOVE",
    "uWO-CIRCLE NUKTA ABOVEwVIRAMAeSARGAmVOWEL CANDRA EbOiSIGN AAbIbU",
    "cCANDRA EbOiEbIaIcObUaUcVOCALIC LaLcRaRzdNJALA GONDI DIGIT EIGHTfFIVE",
    "dOUReNINEeONEdSEVENeIXdTHREEeWOdZEROkLETTER AaAbIbUcBAbHAdCAbHAdDAbDAbHA",
    "dHAdEEcGAbHAdHAcIaIcJAbHAdKAbHAdLAbLAdMAcNAbGAdOOcPAbHAdRAcSAcTAbHAcTA",
    "bHAeUaUcVAcYAjOMcSIGN ANUSVARAiVISARGAmVIRAMAfOWEL SIGN AAbIbUcEEcIaIcOO",
    "cUaUzaRMUKHI ABBREVIATION SIGNqDDAKfDIGIT EIGHTfFIVEdOUReNINEeONEdSEVEN",
    "eIXdTHREEeWOdZEROkEK ONKARiIRIdLETTER AaAbIbUcBAbHAdCAbHAdDAbDAbHAdHAdEE",
    "cFAcGAbHAbHAeHAcIaIcJAbHAdKAbHAbHAeLAbLAdMAcNAbGAcNAcYAdOOcPAbHAdRAbRA",
    "dSAbHAdTAbHAcTAbHAeUaUcVAcYAcZAjSIGN ADAK BINDIkBINDIfNUKTAfUDAATfVIRAMA",
    "eSARGAhYAKASHlTIPPIfURAdVOWEL SIGN AAbIbUcEEcIaIcOOcUaUwHADESdIR SPACE",
    "gCUTfLFWIDTH BLACK SQUAREmDOWNWARDS ARROWpFORMS LIGHT VERTICAL",
    "uHANGUL FILLERgLETTER AaEcCHIEUCHgIEUCfEaObUcHIEUHfIaEUNGfKHIEUKHgIYEOK",
    "a-SIOSlMIEUMfNIEUNa-CIEUCfHIEUHlOaEcPHIEUPHgIEUPa-SIOSkRIEULa-HIEUH",
    "fKIYEOKgMIEUMfPHIEUPHgIEUPfSIOSeTHIEUTHnSIOSdSANGCIEUCfKIYEOKgPIEUPfSIOS",
    "eTIKEUTlTHIEUTHgIKEUTgUbWAaEcEaOcIcYAaEcEaOcIbObUqIDEOGRAPHIC COMMA",
    "fFULL STOPvKATAKANA LETTER AbEbHAbEbIbObUcIbKAbEbIbObUcMAbEbIbObUcNaAbE",
    "bIbObUcObRAbEbIbObUcSAbEbIbMALL AbEbIbObTUcUbYAbObUhObUcTAbEbIbObUcUbWA",
    "bOcYAbObUjMIDDLE DOTkSEMI-VOICED SOUND MARKwVOICED SOUND MARK",
    "s-HIRAGANA PROLONGED SOUND MARKznLEFT CORNER BRACKETpWARDS ARROW",
    "pRIGHT CORNER BRACKETpWARDS ARROWqUPWARDS ARROWnWHITE CIRCLEuMBURGERgMER",
    "a AND PICKeSICKLEgWRENCHoSAbTER FACE",
    "kND WITH INDEX AND MIDDLE FINGERS CROSSEDzbFINGER AND THUMB CROSSEDzlBAG",
    "bLLeSHAKEgGUL CHOSEONG CEONGCHIEUMCHIEUCHgIEUCfSIOSdSANGCIEUCfSIOS",
    "tHIEUCHa-HIEUHfKHIEUKHmTUEUMCHIEUCHgIEUCfSIOSdSANGCIEUCfSIOSqIEUCa-IEUNG",
    "lFILLERgHIEUHa-SIOSkIEUNGa-CHIEUCHgIEUCfHIEUHfKIYEOKgMIEUMfPANSIOS",
    "gHIEUPHgIEUPfRIEULfSIOSeTHIEUTHgIKEUTmKAPYEOUNMIEUMfPHIEUPHgIEUPfRIEUL",
    "fSSANGPIEUPrHIEUKHgIYEOKa-TIKEUTnMIEUMa-KIYEOKgPIEUPfSIOSeTIKEUTmNIEUN",
    "a-CIEUCfHIEUHfKIYEOKgPIEUPfSIOSeTIKEUTmPANSIOSgHIEUPHa-HIEUHfPIEUPmIEUP",
    "a-CHIEUCHgIEUCfHIEUHfKHIEUKHgIYEOKgNIEUNfPHIEUPHhSIOSa-CIEUCfKIYEOK",
    "gPIEUPfTHIEUTHgIKEUTkSANGSIOSjTHIEUTHgIKEUTmRIEULa-CIEUCfHIEUH",
    "fKAPYEOUNPIEUPmHIEUKHgIYEOKgMIEUMfNIEUNfPIEUPfSIOSdSANGKIYEOKgPIEUP",
    "fTIKEUTlTIKEUTmSIOSa-CHIEUCHgIEUCfHIEUHfIEUNGfKHIEUKHgIYEOKgMIEUMfNIEUN",
    "fPHIEUPHgIEUPa-KIYEOKmRIEULfSSANGSIOSjTHIEUTHgIKEUTkSANGCIEUCa-HIEUH",
    "lHIEUHfIEUNGfKIYEOKgNIEUNfPIEUPfRIEULfSIOSa-PIEUPkTHIEUTHgIKEUT",
    "gYEORINHIEUHqTHIEUTHgIKEUTa-CIEUCfKIYEOKgMIEUMfPIEUPfRIEULfSIOS",
    "lYEORINHIEUHjSIEUNGrDOUBLE DOT TONE MARKuFILLERgJONGSEONG CHIEUCHgIEUC",
    "a-PIEUPfSSANGPIEUPqHIEUHa-MIEUMfNIEUNfPIEUPfRIEULlIEUNGa-KHIEUKHgIYEOK",
    "gSSANGKIYEOKrKAPYEOUNMIEUMfPHIEUPHgIEUPfRIEULmHIEUKHgIYEOKa-CHIEUCH",
    "hHIEUHfKHIEUKHhNIEUNfPIEUPfRIEULfSIOSa-KIYEOKsMIEUMa-CHIEUCHgIEUCfHIEUH",
    "fKIYEOKgNIEUNfPANSIOSgIEUPa-SIOSkRIEULfSIOSdSANGNIEUNfSIOSpNIEUN",
    "a-CHIEUCHgIEUCfHIEUHfKIYEOKgPANSIOShRIEULfSIOSeTHIEUTHgIKEUTmPANSIOS",
    "a-KAPYEOUNPIEUPnPIEUPmHIEUPHa-PIEUPfSIOSeTHIEUTHoIEUPa-CHIEUCHgIEUC",
    "fHIEUHfMIEUMfPHIEUPHhRIEULa-PHIEUPHnSIOSa-TIKEUTlTIKEUTmRIEULa-HIEUH",
    "fKAPYEOUNPIEUPmHIEUKHgIYEOKa-HIEUHfSIOSlMIEUMa-HIEUHfKIYEOKgSIOSkNIEUN",
    "fPANSIOSgHIEUPHgIEUPa-HIEUHfPHIEUPHhSIOSeTIKEUTmSIOSdSANGKIYEOKgSIOS",
    "jTHIEUTHgIKEUTa-HIEUHmYEORINHIEUHa-HIEUHpSIEUNGoSIOSa-CHIEUCHgIEUCfHIEUH",
    "fKAPYEOUNPIEUPmIYEOKgMIEUMfPANSIOSgIEUPfRIEULfTHIEUTHgIKEUTkSANGCIEUC",
    "fIEUNGfKIYEOKgMIEUMfNIEUNfPIEUPfRIEULa-KHIEUKHnSIOSa-KIYEOKgTIKEUT",
    "lTIKEUTa-PIEUPmYESIEUNGnTHIEUTHgIKEUTa-CHIEUCHgIEUCfKIYEOKgPIEUPfRIEUL",
    "fSIOSa-KIYEOKlTHIEUTHoYEORINHIEUHjSIEUNGa-HIEUHfKHIEUKHgIYEOKgMIEUM",
    "fPANSIOShSIOSdSANGKIYEOKzeUNGSEONG Aa-EUcObUcEbRAEAa-AbEaOcIbUhEaOa-EUcO",
    "bUdUa-AbEaObUcObUeFILLERgIa-AaRAEAfEUcIbOa-IdUbYAa-OcEcEaOcObUeOa-EaOcO",
    "a-IdUbYAaEcEaOeEcSSANGARAEAkUa-AaEcEO-EUfI-IdUbYEaOfWAaEcEaOcIcYAa-ObU",
    "bYOdEcEaOa-ObUbYAfIa-UdOa-AaEcEOcIbObYAaEcEOfUa-AaEcEaOcIbObUbYEaO",
    "qLETTER AaEbRAEAaEgCHIEUCHgIEUCfEaObUcHIEUHfIaEUNGfKAPYEOUNMIEUMfPHIEUPH",
    "gIEUPfSSANGPIEUPrHIEUKHgIYEOKa-SIOSlMIEUMa-PANSIOSgIEUPfSIOSkNIEUN",
    "a-CIEUCfHIEUHfPANSIOShSIOSeTIKEUTmOaEcPANSIOSgHIEUPHgIEUPa-CIEUCfKIYEOK",
    "gSIOSa-KIYEOKgTIKEUTlTHIEUTHgIKEUTmRIEULa-HIEUHfKIYEOKa-SIOSlMIEUM",
    "fPANSIOSgHIEUPHgIEUPa-SIOSkSIOSeTHIEUTHgIKEUTgYEORINHIEUHrSIOSa-CIEUC",
    "fKIYEOKgNIEUNfPIEUPfTIKEUTkSANGCIEUCfHIEUHfIEUNGfKIYEOKgNIEUNfPIEUPfSIOS",
    "eTIKEUTlTHIEUTHgIKEUTgUbWAaEcEaOcIcYAaEcEaOaRINHIEUHjSIEUNGa-PANSIOS",
    "hSIOSmIbOa-IbYAaEfUa-IbYEaOnSINGLE DOT TONE MARKxZHOU NUMERAL EIGHTfFIVE",
    "dOUReNINEeONEdSEVENeIXdTENcHIRTYeREEeWENTYeOrIFI ROHINGYA DIGIT EIGHT",
    "fFIVEdOUReNINEeONEdSEVENeIXdTHREEeWOdZEROkLETTER AbBAcCAcDAbDAdFAcGAcHA",
    "cJAcKAbHAcINNA WAcYAiLAcMAcNAbGAcYAdPAcRAbRAdSAbHAdTAbTAdVAcWAcYAcZA",
    "jMARK NA KHONNAjSAKINkSIGN HARBAHAYiTAHALAeNAcSSIkVOWEL AbEbIbObU",
    "uUNOO LETTER AbBAcDAcGAcHAcIbKAcLAcMAcNAbGAdPAcRAcSAcTAcUbWAcYA",
    "jSIGN PAMUDPODnVOWEL SIGN IbUsPPY PERSON RAISING ONE HANDzcRD DISK",
    "hTCHING CHICKlRAN LETTER ALEPHeYNdBETHeDALETH-RESHlGIMELfHEaTHeKAPH",
    "eLAMEDHgMEMdNUNdPEcQOPHeSADHEdMEKHfHINeTAWcETHeWAWdYODHeZAYNlNUMBER FIVE",
    "eONEa HUNDREDlTENcWENTYtEADPHONEfSTONEa GRAVEYARD SYMBOL",
    "xR-NO-EVIL MONKEYpT DECORATIONkHANDSfWITH ARROWfRIBBONgTIP ON THE LEFT",
    "xVY AMPERSAND ORNAMENTrRROW SHAFT WIDTH ONEa HALFeTHIRDjTWO THIRDSz",
    "cSTERISKiBALLOT XhLACK CURVED DOWNWARDS AND RIGHTWARDS ARROWz",
    "fUPWARDS AND RIGHTWARDS ARROWzkHEARTg-FEATHERED NORTH EAST ARROW",
    "qRIGHTWARDS ARROWqSOUTH EAST ARROWzhCHECK MARKhVRON SNOWFLAKEqIRCLE",
    "a WITH CIRCLE INSIDEnSTROKE AND TWO DOTS ABOVEzgD SALTIRE",
    "oONCAVE-POINTED BLACK RIGHTWARDS ARROWz",
    "nDASHED TRIANGLE-HEADED RIGHTWARDS ARROWznIVISION SIGNmOLLAR SIGN",
    "jUBLE COMMA QUOTATION MARK ORNAMENTz",
    "eTURNED COMMA QUOTATION MARK ORNAMENTz",
    "qWNWARDS ARROW WITH EQUILATERAL ARROWHEADvLARGE EQUILATERAL ARROWHEADz",
    "xEIGHT POINTED BLACK STARkPINWHEEL STARnRECTILINEAR BLACK STARz",
    "fSPOKED ASTERISKpTEARDROP-SPOKED PROPELLER ASTERISKzoQUALS SIGN",
    "kXCLAMATION MARK ORNAMENTiSYMBOLxFIVE POINTED BLACK STARsSPOKED ASTERISK",
    "tOUR BALLOON-SPOKED ASTERISKzdGREEK CROSS",
    "lHEART EXCLAMATION MARK ORNAMENTzfORIZONTAL FILLpINTERROBANG ORNAMENT",
    "uLARGE CIRCLEkTIN CROSSkEFT-POINTING ANGLE BRACKET ORNAMENT",
    "qQUOTATION MARK ORNAMENTzoWARDS ARROW WITH EQUILATERAL ARROWHEAD",
    "vLARGE EQUILATERAL ARROWHEADzwIGATURE OPEN ET ORNAMENT",
    "yOW DOUBLE COMMA QUOTATION MARK ORNAMENTz",
    "lSINGLE COMMA QUOTATION MARK ORNAMENTz",
    "mER RIGHT-SHADOWED WHITE RIGHTWARDS ARROWzsMINUS SIGNjULTIPLICATION X",
    "qNORTH EAST ARROWfPOINTING BUDdVINE LEAFxWEST POINTING BUDdVINE LEAFz",
    "eOPEN CENTRE CROSSqUTLINED BLACK STARsVAL WITH OVAL INSIDEvPLUS SIGN",
    "jRIGHT-POINTING ANGLE BRACKET ORNAMENTqQUOTATION MARK ORNAMENTz",
    "oWARDS ARROWa WITH EQUILATERAL ARROWHEADvLARGE EQUILATERAL ARROWHEADz",
    "xOUND-TIPPED RIGHTWARDS ARROWzeSALTIREfNS-SERIF INTERROBANG ORNAMENTz",
    "fCRIPT LIGATURE ET ORNAMENTzbINGLE COMMA QUOTATION MARK ORNAMENTz",
    "eTURNED COMMA QUOTATION MARK ORNAMENTzqX POINTED BLACK STAR",
    "sSPOKED ASTERISKsOUTH EAST ARROWfPOINTING BUDdVINE LEAF",
    "xWEST POINTING BUDdVINE LEAFzdPARKLEhTEARDROP-SHANKED RIGHTWARDS ARROW",
    "xPOKED ASTERISKiPINWHEEL ASTERISKzhRIANGLE-HEADED RIGHTWARDS ARROWz",
    "gWELVE POINTED BLACK STARkPINWHEEL STARz",
    "dUPPER RIGHT-SHADOWED WHITE RIGHTWARDS ARROWz",
    "qWARDS ARROW WITH EQUILATERAL ARROWHEADvLARGE EQUILATERAL ARROWHEADz",
    "vVERTICAL BARmWEDGE-TAILED RIGHTWARDS ARROWzdHITE CIRCLE",
    "gDOWN-POINTING TRIANGLEwSQUARElIDE-HEADED RIGHTWARDS ARROWz",
    "hBREW ACCENT ATNAH HAFUKHmDARGAeEHIeETNAHTAhGERESHa MUQDAMkSHAYIMjILUY",
    "eMAHAPAKHhERKHAa KEFULAmUNAHfOLEdPASHTAeZERfQADMAdRNEY PARAlREVIAfSEGOL",
    "eHALSHELETkTELISHA GEDOLAgQETANAmVIReIPEHAgYERAH BEN YOMOmTIV",
    "fZAQEF GADOLfQATANjRQAeINORmLETTER ALEFa WITH MAPIQfPATAHfQAMATS",
    "oTERNATIVE AYINePLUS SIGNuYINeBETa WITH DAGESHgRAFEnDALETa WITH DAGESH",
    "rFINAL KAFa WITH DAGESHpMEMdNUNdPEa WITH DAGESHoTSADIlGIMELa WITH DAGESH",
    "rHEa WITH MAPIQlTdKAFa WITH DAGESHgRAFEnLAMEDa WITH DAGESHrMEM",
    "a WITH DAGESHpNUNa WITH DAGESHpPEa WITH DAGESHgRAFEmQOFa WITH DAGESH",
    "pRESHa WITH DAGESHqSAMEKHa WITH DAGESHrHINa WITH DAGESHa AND SHIN DOT",
    "hIN DOTsSHIN DOThIN DOTrTAVa WITH DAGESHoETa WITH DAGESHoSADI",
    "a WITH DAGESHrVAVa WITH DAGESHgHOLAMoWIDE ALEFeDALETfFINAL MEMjHEcKAF",
    "dLAMEDfRESHeTAViYODa WITH DAGESHgHIRIQoZAYINa WITH DAGESH",
    "xIGATURE ALEF LAMEDkYIDDISH DOUBLE VAVdYODkVAV YODhYOD YOD PATAHz",
    "fMARK LOWER DOTjMASORA CIRCLEnUPPER DOToPOINT DAGESH OR MAPIQ",
    "pHATAF PATAHfQAMATSgSEGOLkIRIQeOLAMa HASER FOR VAVtJUDEO-SPANISH VARIKA",
    "uMETEGfPATAHfQAMATSa QATANlUBUTSgRAFEeSEGOLeHEVAdIN DOThIN DOThTSERE",
    "kUNCTUATION GERESHdSHAYIMjMAQAFfNUN HAFUKHAlPASEQfSOF PASUQvYOD TRIANGLE",
    "rDGEHOGgLICOPTERhLSCHREIBER PAUSE SYMBOLxM SYMBOLhET WITH WHITE CROSS",
    "vNTAIGANA LETTER A-1b2b3bWOeE-1b2b3b4b5b6dHA-1a0b1c2b3b4b5b6b7b8b9dE-1b2",
    "b3b4b5b6b7dI-1b2b3b4b5b6b7dO-1b2b3b4b5b6b7b8dU-1b2b3eI-1b2b3b4dKA-1a0b1",
    "c2b3b4b5b6b7b8b9bKEeE-1b2b3b4b5b6dI-1b2b3b4b5b6b7b8dO-1b2b3bKIeU-1b2b3b4",
    "b5b6b7eMA-1b2b3b4b5b6b7dE-1b2bMAeI-1b2b3b4b5b6b7dO-1b2b3b4b5b6dU-1b2b3b4",
    "eN-MU-MO-1b2iA-1b2b3b4b5b6b7b8b9dE-1b2b3b4b5b6bKOeI-1b2b3b4b5b6b7bTEeO-1",
    "b2b3b4b5dU-1b2b3eO-1b2b3dRA-1b2b3b4dE-1b2b3b4dI-1b2b3b4b5b6b7dO-1b2b3b4",
    "b5b6dU-1b2b3b4b5b6eSA-1b2b3b4b5b6b7b8dE-1b2b3b4b5dI-1b2b3b4b5b6dO-1b2b3",
    "b4b5b6b7dU-1b2b3b4b5b6b7b8eTA-1b2b3b4dE-1b2b3b4b5b6b7b8b9dI-1b2b3b4b5b6",
    "b7dO-1b2b3b4b5b6bRAeU-1b2b3b4bTOfU-1b2b3b4b5dWA-1b2b3b4b5dE-1b2b3b4dI-1",
    "b2b3b4b5dO-1b2b3b4b5b6b7eYA-1b2b3b4b5bYOeO-1b2b3b4b5b6dU-1b2b3b4uRB",
    "bMITIAN CONJUGATE MATRIXyXAGRAM FOR ABUNDANCEiFTER COMPLETIONpPPROACH",
    "iBEFORE COMPLETIONqITING THROUGHnREAKTHROUGHmCOMING TO MEETmNFLICT",
    "fTEMPLATIONnDARKENING OF THE LIGHTvECREASEgLIVERANCEjVELOPMENT",
    "kIFFICULTY AT THE BEGINNINGzaSPERSIONjURATIONiENTHUSIASMkFELLOWSHIP",
    "jOLLOWINGjGATHERING TOGETHERrRACEdEAT POSSESSIONiWEReREPONDERANCEnTAMING",
    "mHOLDING TOGETHERqINCREASEgFLUENCEhNER TRUTHiOCENCEjLIMITATIONkMODESTY",
    "fUTH CORNERSnOBSTRUCTIONkPPOSITIONhRESSIONkPEACEeROGRESShUSHING UPWARD",
    "oRETREATeURNeVOLUTIONkSMALL PREPONDERANCEnTAMINGlPLITTING APART",
    "oTANDSTILLkTHE ABYSMAL WATERmRMYcOUSING THUNDERqCAULDRONhLINGING FIRE",
    "mREATIVE HEAVENpFAMILYgGENTLE WINDlJOYOUS LAKElKEEPING STILL MOUNTAIN",
    "wMARRYING MAIDENpRECEPTIVE EARTHpWANDERERhELLhREADINGiWAITING",
    "gORK ON THE DECAYEDtYOUTHFUL FOLLYzbIBISCUSgGH BRIGHTNESS SYMBOL",
    "rOCTET PRESETmVOLTAGE SIGNn-HEELED SHOElSPEED TRAINa WITH BULLET NOSEz",
    "gKING BOOTjNDU TEMPLEkPPOPOTAMUSkRAGANA DIGRAPH YORImITERATION MARK",
    "oLETTER AaRCHAIC WUcYEkBAbEbIbObUcDAbEbIbObUcEbGAbEbIbObUcHAbEbIbObUcI",
    "bKAbEbIbObUcMAbEbIbObUcNaAbEbIbObUcObPAbEbIbObUcRAbEbIbObUcSAbEbIbMALL A",
    "bEbIbKAbEcObTUcUbWAbEbIbOcYAbObUhObUcTAbEbIbObUcUbVUcWAbEbIbOcYAbObUcZA",
    "bEbIbObUjVOICED ITERATION MARKzdSTORIC SITEmOCHOdLE",
    "bLOW QUILT SQUARE ORNAMENTa IN BLACK SQUAREzrMOTHETICiNEY POTeBEEgOKcP",
    "bRIZONTAL BARcLACK HEXAGONhOCTAGONnELLIPSISiLINE EXTENSION",
    "oMALE WITH STROKE SIGNvONE EIGHTH BLOCK-1358e2b3b4b5b6b7sSCAN LINE-1b3b7",
    "b9lTAB KEYeULATIONa SETdWITH JUSTIFICATIONzdRAFFIC LIGHTvSEa FACEeRACING",
    "kSPITALgT BEVERAGEiDOGdPEPPERgSPRINGSiELdURGLASSa WITH FLOWING SANDySE",
    "a BUILDINGaSjWITH GARDENqRYVNIA SIGNlTaJbScUGGING FACE",
    "kNDRED POINTS SYMBOLtSHED FACEjTcYGIEAePHENa BULLETgWITH DIAERESIS",
    "p-MINUSgATION POINToODIASTOLEkSTERESIS SYMBOL"]

end Chip8.Text.CharacterName
